import VMQemuVGA.Lib.Bytes
import VMQemuVGA.IOSurface.Store

/-! # The properties of a surface

`setSurfaceProperty` and `getSurfaceProperty` do not look a surface up as the other calls
do: they take each element of `m_surfaces` for a `VMIOSurface` at its address. -/

namespace VMQemuVGA

/-! ## Properties and fields -/

/-- The properties by the fields they stand for. -/
inductive SurfaceProperty where
  | name
  | cacheMode
  | pixelFormat
  | usageFlags
  | memorySize
  deriving DecidableEq, Repr

namespace SurfaceProperty

/-- Where the field lies in a `VMIOSurface`. -/
def extent : SurfaceProperty → Extent
  | usageFlags => ⟨216, 4⟩
  | pixelFormat => ⟨220, 4⟩
  | memorySize => ⟨264, 4⟩
  | name => ⟨268, 64⟩
  | cacheMode => ⟨332, 4⟩

/-- `sizeof(VMIOSurface)`. -/
def structSize : Nat := 344

def key : SurfaceProperty → String
  | name => "name"
  | cacheMode => "cache_mode"
  | pixelFormat => "pixel_format"
  | usageFlags => "usage_flags"
  | memorySize => "memory_size"

/-- The properties that `getSurfaceProperty` knows. -/
def ofString (s : String) : Option SurfaceProperty :=
  if s = "name" then some name
  else if s = "cache_mode" then some cacheMode
  else if s = "pixel_format" then some pixelFormat
  else if s = "usage_flags" then some usageFlags
  else if s = "memory_size" then some memorySize
  else none

/-- The values that `setSurfaceProperty` takes. -/
def accepted (s : String) (value : List UInt8) : Option SurfaceProperty :=
  if s = "name" ∧ value.length ≤ 64 then some name
  else if s = "cache_mode" ∧ value.length = 4 then some cacheMode
  else if s = "pixel_format" ∧ value.length = 4 then some pixelFormat
  else if s = "usage_flags" ∧ value.length = 4 then some usageFlags
  else none

/-- What is written for a value: behind a name comes a zero, wherever that may be. -/
def stored (p : SurfaceProperty) (value : List UInt8) : List UInt8 :=
  if p = name then value ++ [0] else value

variable {s : String} {value : List UInt8} {p : SurfaceProperty}

theorem ofString_eq_some : ofString s = some p ↔ s = p.key := by
  constructor
  · intro h
    rw [ofString] at h
    split_ifs at h with hname hcache hformat husage hsize
    · cases h
      exact hname
    · cases h
      exact hcache
    · cases h
      exact hformat
    · cases h
      exact husage
    · cases h
      exact hsize
  · rintro rfl
    cases p with
    | name => rfl
    | cacheMode => rfl
    | pixelFormat => rfl
    | usageFlags => rfl
    | memorySize => rfl

/-- A property that can be set can be read. -/
theorem ofString_of_accepted (h : accepted s value = some p) : ofString s = some p := by
  rw [ofString_eq_some]
  rw [accepted] at h
  split_ifs at h with hname hcache hformat husage
  · cases h
    exact hname.1
  · cases h
    exact hcache.1
  · cases h
    exact hformat.1
  · cases h
    exact husage.1

theorem length_of_accepted (h : accepted s value = some p) :
    p ≠ memorySize ∧ (p = name → value.length ≤ 64) ∧ (p ≠ name → value.length = 4) := by
  rw [accepted] at h
  split_ifs at h with hname hcache hformat husage
  · cases h
    simpa using hname.2
  · cases h
    simpa using hcache.2
  · cases h
    simpa using hformat.2
  · cases h
    simpa using husage.2

end SurfaceProperty

/-! ## The two calls -/

/-- The manager's surfaces and the memory that their elements lie in. -/
structure SurfaceElements where
  store : SurfaceStore
  bytes : Nat → UInt8

/-- What `getSurfaceProperty` returns, leaves in `*value_size` and writes. -/
structure PropertyAnswer where
  ret : IOReturn
  size : Nat
  value : List UInt8
  deriving DecidableEq, Repr

/-- The answer with the bytes of a value, where they fit. -/
def PropertyAnswer.ofBytes (bs : List UInt8) (capacity : Nat) : PropertyAnswer :=
  if capacity ≥ bs.length then ⟨.success, bs.length, bs⟩ else ⟨.noSpace, bs.length, []⟩

namespace SurfaceElements

open SurfaceProperty

/-- The first element that reads as a surface of this id. -/
def element (id : Nat) (s : SurfaceElements) : Option Nat :=
  s.store.surfaces.find? fun a => wordAt s.bytes a = id

/-- The bytes of a field of the element at `a`. -/
def field (p : SurfaceProperty) (a : Nat) (s : SurfaceElements) : List UInt8 :=
  peek s.bytes (a + p.extent.base) p.extent.size

/-- The bytes behind the cache mode, `memory_priority` and padding. -/
def rest (a : Nat) (s : SurfaceElements) : List UInt8 := peek s.bytes (a + 336) 8

/-- What is read for a property. A name goes on to the first zero; `none` where there is
none up to the end of the structure. -/
def valueOf (p : SurfaceProperty) (a : Nat) (s : SurfaceElements) : Option (List UInt8) :=
  if p = name then (cString (peek s.bytes (a + 268) (structSize - 268))).map (· ++ [0])
  else some (s.field p a)

/-- The memory after a field of the element at `a` was set. -/
def withValue (p : SurfaceProperty) (a : Nat) (value : List UInt8) (s : SurfaceElements) :
    SurfaceElements :=
  { s with bytes := poke s.bytes (a + p.extent.base) (p.stored value) }

/-- `setSurfaceProperty`; `none` stands for a null pointer. -/
def setSurfaceProperty (id : Nat) (property : Option String) (value : Option (List UInt8))
    (s : SurfaceElements) : IOReturn × SurfaceElements :=
  match property, value with
  | some property, some value =>
      if value.length = 0 then (.badArgument, s)
      else
        match s.element id with
        | none => (.notFound, s)
        | some a =>
            match accepted property value with
            | none => (.unsupported, s)
            | some p => (.success, s.withValue p a value)
  | _, _ => (.badArgument, s)

/-- `getSurfaceProperty`; `buffer` is whether there is one. -/
def getSurfaceProperty (id : Nat) (property : Option String) (buffer : Bool)
    (capacity : Option Nat) (s : SurfaceElements) : Option PropertyAnswer :=
  match property, buffer, capacity with
  | some property, true, some capacity =>
      match s.element id with
      | none => some ⟨.notFound, capacity, []⟩
      | some a =>
          match ofString property with
          | none => some ⟨.unsupported, capacity, []⟩
          | some p => (s.valueOf p a).map (PropertyAnswer.ofBytes · capacity)
  | _, _, capacity => some ⟨.badArgument, capacity.getD 0, []⟩

/-- The manager has a surface of this id. -/
def Live (id : Nat) (s : SurfaceElements) : Prop :=
  ∃ a, s.store.live a = true ∧ (s.store.records a).surfaceId = id

/-! ## Reading and writing fields -/

variable {s t : SurfaceElements} {id a b : Nat} {p q : SurfaceProperty} {property other : String}
  {value : List UInt8}

theorem ofBytes_inj {x y : Option (List UInt8)}
    (h : ∀ capacity, x.map (PropertyAnswer.ofBytes · capacity) =
      y.map (PropertyAnswer.ofBytes · capacity)) : x = y := by
  cases x with
  | none => exact (Option.map_eq_none_iff.mp (h 0).symm).symm
  | some bs =>
      cases y with
      | none => exact Option.map_eq_none_iff.mp (h 0)
      | some cs =>
          -- with room for both, each answer is its value
          have hmax := h (max bs.length cs.length)
          simp only [Option.map_some, PropertyAnswer.ofBytes, if_pos (Nat.le_max_left _ _),
            if_pos (Nat.le_max_right _ _), Option.some.injEq, PropertyAnswer.mk.injEq] at hmax
          rw [hmax.2.2]

/-- With an element for the surface, `getSurfaceProperty` answers with the value. -/
theorem getSurfaceProperty_of_element (ha : s.element id = some a)
    (hp : ofString property = some p) (capacity : Nat) :
    s.getSurfaceProperty id (some property) true (some capacity) =
      (s.valueOf p a).map (PropertyAnswer.ofBytes · capacity) := by
  simp [getSurfaceProperty, ha, hp]

/-- A name is read from its field, the cache mode's field and the bytes behind. -/
theorem peek_name : peek s.bytes (a + 268) (structSize - 268) =
    s.field name a ++ (s.field cacheMode a ++ s.rest a) := by
  show peek s.bytes (a + 268) (64 + (4 + 8)) = _
  rw [peek_add, peek_add]
  rfl

theorem withValue_bytes {i : Nat} (h : ¬ Extent.Has ⟨p.extent.base, (p.stored value).length⟩ i) :
    (s.withValue p a value).bytes (a + i) = s.bytes (a + i) := by
  apply poke_of_not_has
  intro hin
  apply h
  obtain ⟨hfirst, hlast⟩ := hin
  exact ⟨by dsimp only at *; omega, by dsimp only at *; omega⟩

/-- Any two fields lie apart. -/
theorem apart_of_ne (h : p ≠ q) : Extent.Apart p.extent q.extent := by
  cases p <;> cases q <;> first | exact absurd rfl h | decide

/-- A value of four bytes fills its field. -/
theorem length_stored (h : accepted property value = some p) (hp : p ≠ name) :
    (p.stored value).length = p.extent.size := by
  obtain ⟨hsize, -, hword⟩ := length_of_accepted h
  rw [stored, if_neg hp, hword hp]
  cases p with
  | name => exact absurd rfl hp
  | _ => rfl

theorem field_withValue_self (h : accepted property value = some p) (hp : p ≠ name) :
    (s.withValue p a value).field p a = value := by
  have hpeek : peek (s.withValue p a value).bytes (a + p.extent.base) (p.stored value).length =
      p.stored value := peek_poke_same
  rw [length_stored h hp, stored, if_neg hp] at hpeek
  exact hpeek

/-- Nothing of the structure is changed outside the field of `p`. -/
def Inside (p : SurfaceProperty) (a : Nat) (s t : SurfaceElements) : Prop :=
  ∀ i < structSize, ¬ p.extent.Has i → t.bytes (a + i) = s.bytes (a + i)

theorem extent_le (p : SurfaceProperty) : p.extent.base + p.extent.size ≤ structSize := by
  cases p <;> decide

theorem Inside.field (h : Inside p a s t) (hq : p ≠ q) : t.field q a = s.field q a := by
  apply peek_congr
  intro i hi
  rw [Nat.add_assoc]
  apply h
  · exact Nat.lt_of_lt_of_le (Nat.add_lt_add_left hi _) (extent_le q)
  · apply (apart_of_ne hq).not_has
    exact ⟨Nat.le_add_right _ _, Nat.add_lt_add_left hi _⟩

theorem Inside.rest (h : Inside p a s t) : t.rest a = s.rest a := by
  apply peek_congr
  intro i hi
  rw [Nat.add_assoc]
  apply h
  · exact Nat.add_lt_add_left hi 336
  · intro hin
    have hend : p.extent.base + p.extent.size ≤ 336 := by cases p <;> decide
    have hlt := hin.2
    omega

theorem inside_withValue (h : accepted property value = some p) (hp : p ≠ name) :
    Inside p a s (s.withValue p a value) := by
  intro i _ hi
  apply withValue_bytes
  rwa [length_stored h hp]

/-- A name stays inside its field unless the zero behind it changes the next one. -/
theorem inside_withName (hlen : value.length ≤ 64) :
    Inside name a s (s.withValue name a value) ↔ (value.length = 64 → s.bytes (a + 332) = 0) := by
  have hstored : (stored name value).length = value.length + 1 := by
    simp [stored]
  have hbehind : value.length = 64 → (s.withValue name a value).bytes (a + 332) = 0 := by
    intro hfull
    have hlast : 64 < (stored name value).length := by omega
    have hpoke : (s.withValue name a value).bytes (a + 268 + 64) = (stored name value)[64] :=
      poke_of_lt hlast
    rw [Nat.add_assoc] at hpoke
    rw [hpoke]
    simp [stored, List.getElem_append_right, hfull]
  constructor
  · intro h hfull
    rw [← hbehind hfull]
    exact (h 332 (by decide) (by decide)).symm
  · intro h i _ hi
    by_cases hat : value.length = 64 ∧ i = 332
    · obtain ⟨hfull, rfl⟩ := hat
      rw [hbehind hfull, h hfull]
    · apply withValue_bytes
      rw [hstored]
      rintro ⟨hfirst, hlast⟩
      apply hi
      have hbase : name.extent.base = 268 := rfl
      have hsize : name.extent.size = 64 := rfl
      constructor
      · exact hfirst
      · dsimp only at *
        omega

/-- The name that is read after one was set. -/
theorem valueOf_name_withValue (hlen : value.length ≤ 64) :
    (s.withValue name a value).valueOf name a = some (untilZero (value ++ [0]) ++ [0]) := by
  have hpeek : peek (s.withValue name a value).bytes (a + 268) (structSize - 268) =
      (value ++ [0]) ++ peek (s.withValue name a value).bytes (a + 268 + (value ++ [0]).length)
        (structSize - 268 - (value ++ [0]).length) := by
    have hsplit : structSize - 268 = (value ++ [0]).length +
        (structSize - 268 - (value ++ [0]).length) := by
      rw [List.length_append, List.length_singleton, structSize]
      omega
    conv_lhs => rw [hsplit, peek_add]
    congr 1
    exact peek_poke_same
  rw [valueOf, if_pos rfl, hpeek, cString_append_of_mem (by simp), Option.map_some]

/-- A name is read back, with a zero at its end, if it has no zero before. -/
theorem name_read_iff (h : value ≠ []) :
    untilZero (value ++ [0]) ++ [0] = value ∨ untilZero (value ++ [0]) ++ [0] = value ++ [0] ↔
      0 ∉ value.dropLast := by
  obtain ⟨l, b, rfl⟩ := List.eq_nil_or_concat value |>.resolve_left h
  rw [List.concat_eq_append, List.dropLast_concat, List.append_assoc]
  by_cases hl : 0 ∈ l
  · -- the name ends too early
    have hshort := length_untilZero hl
    have hne : ∀ u, untilZero l ++ [0] ≠ l ++ b :: u := by
      intro u heq
      have hlen := congrArg List.length heq
      simp only [List.length_append, List.length_cons, List.length_nil] at hlen
      omega
    rw [untilZero_append_of_mem hl]
    have hnot := not_or.mpr ⟨hne [], hne [0]⟩
    exact ⟨fun hread => absurd hread hnot, fun hzero => absurd hl hzero⟩
  · rw [untilZero_append_of_not_mem hl]
    by_cases hb : b = 0
    · simp [hl, hb, untilZero]
    · simp [hl, hb, untilZero]

/-! ## Finding the element again -/

/-- What `find?` returns has a match and nothing before it has. -/
theorem find?_eq_some_iff_takeWhile {l : List Nat} {f : Nat → Bool} (ha : a ∈ l) :
    l.find? f = some a ↔ f a = true ∧ ∀ b ∈ l.takeWhile (· ≠ a), f b = false := by
  induction l with
  | nil => simp at ha
  | cons b l ih =>
      by_cases hb : b = a
      · subst hb
        cases hf : f b with
        | true => simp [hf]
        | false =>
            have hnot : l.find? f ≠ some b := by
              intro h
              simpa [hf] using List.find?_some h
            simp [hf, hnot]
      · have hl : a ∈ l := (List.mem_cons.mp ha).resolve_left (Ne.symm hb)
        cases hf : f b with
        | true => simp [hb, hf]
        | false => simp [hb, hf, ih hl]

/-- The bytes written for a value of the element at `a` do not make an element before it
read as a surface of this id. -/
def StaysFirst (id : Nat) (p : SurfaceProperty) (a : Nat) (value : List UInt8)
    (s : SurfaceElements) : Prop :=
  ∀ b ∈ s.store.surfaces.takeWhile (· ≠ a),
    wordAt (poke s.bytes (a + p.extent.base) (p.stored value)) b ≠ id

theorem element_withValue (ha : s.element id = some a) :
    (s.withValue p a value).element id = some a ↔ s.StaysFirst id p a value := by
  have hmem : a ∈ s.store.surfaces := List.mem_of_find?_eq_some ha
  have hword : wordAt s.bytes a = id := by simpa using List.find?_some ha
  -- fields do not reach the id
  have hkeep : wordAt (s.withValue p a value).bytes a = wordAt s.bytes a := by
    apply wordAt_congr
    intro i hi
    apply poke_of_not_has
    intro hin
    have hbase : 4 ≤ p.extent.base := by cases p <;> decide
    have := hin.1
    dsimp only at this
    omega
  rw [element, show (s.withValue p a value).store = s.store from rfl,
    find?_eq_some_iff_takeWhile hmem, hkeep, and_iff_right (decide_eq_true hword)]
  exact forall₂_congr fun b _ => decide_eq_false_iff_not

/-! ## What a successful set should do -/

/-- The element at `a` is still the one of the surface, the value is read back, the bytes
outside its field are as they were, and so are the other properties. A name is read back
with a zero at its end. -/
structure Sets (id : Nat) (property : String) (value : List UInt8) (a : Nat)
    (s t : SurfaceElements) : Prop where
  found : t.element id = some a
  reads : ∃ bs, (bs = value ∨ property = "name" ∧ bs = value ++ [0]) ∧ ∀ capacity,
    t.getSurfaceProperty id (some property) true (some capacity) =
      some (PropertyAnswer.ofBytes bs capacity)
  fields : ∀ p, ofString property = some p → Inside p a s t
  others : ∀ other, other ≠ property → ∀ capacity,
    t.getSurfaceProperty id (some other) true (some capacity) =
      s.getSurfaceProperty id (some other) true (some capacity)

/-- A value that its field can hold without harm to the others: a name without a zero
inside, and with room for its own or a zero behind the field; a cache mode that a name
without an end does not show. -/
def Fits (p : SurfaceProperty) (a : Nat) (value : List UInt8) (s : SurfaceElements) : Prop :=
  match p with
  | .name => 0 ∉ value.dropLast ∧ (value.length = 64 → s.bytes (a + 332) = 0)
  | .cacheMode =>
      0 ∈ s.field name a ∨ untilZero (s.field cacheMode a) = untilZero value ∨
        (0 ∉ s.field cacheMode a ∧ 0 ∉ value ∧ 0 ∉ s.rest a)
  | _ => True

/-- Setting a cache mode leaves the name iff the name ends before it, or shows no
difference. -/
theorem valueOf_name_withCacheMode (h : accepted property value = some cacheMode) :
    (s.withValue cacheMode a value).valueOf name a = s.valueOf name a ↔
      s.Fits cacheMode a value := by
  have hne : cacheMode ≠ name := by decide
  have hlen : (s.field cacheMode a).length = value.length :=
    length_peek.trans ((length_of_accepted h).2.2 hne).symm
  have hinside : Inside cacheMode a s (s.withValue cacheMode a value) := inside_withValue h hne
  rw [valueOf, valueOf, if_pos rfl, if_pos rfl, peek_name, peek_name, hinside.rest,
    hinside.field hne, field_withValue_self h hne]
  have hinj : Function.Injective (Option.map (· ++ [(0 : UInt8)])) :=
    Option.map_injective (List.append_left_injective [0])
  rw [hinj.eq_iff, Fits]
  by_cases hname : 0 ∈ s.field name a
  · simp [cString_append_of_mem hname, hname]
  · have hinj' : Function.Injective (Option.map (s.field name a ++ ·)) :=
      Option.map_injective (List.append_right_injective _)
    rw [cString_append_of_not_mem hname, cString_append_of_not_mem hname, hinj'.eq_iff,
      eq_comm, cString_append_inj hlen]
    simp [hname]

/-- The properties other than the one that was set, if the element is found again. -/
theorem others_iff (ha : s.element id = some a) (hb : t.element id = some a) :
    (∀ capacity, t.getSurfaceProperty id (some other) true (some capacity) =
        s.getSurfaceProperty id (some other) true (some capacity)) ↔
      ∀ q, ofString other = some q → t.valueOf q a = s.valueOf q a := by
  cases hq : ofString other with
  | none => simp [getSurfaceProperty, ha, hb, hq]
  | some q =>
      simp only [getSurfaceProperty_of_element ha hq, getSurfaceProperty_of_element hb hq,
        Option.some.injEq, forall_eq']
      exact ⟨ofBytes_inj, fun h capacity => by rw [h]⟩

theorem sets_name (ha : s.element id = some a) (hacc : accepted property value = some name)
    (hvalue : value ≠ []) : Sets id property value a s (s.withValue name a value) ↔
      s.StaysFirst id name a value ∧ s.Fits name a value := by
  have hread : ofString property = some name := ofString_of_accepted hacc
  have hlen : value.length ≤ 64 := (length_of_accepted hacc).2.1 rfl
  have hvalueOf : (s.withValue name a value).valueOf name a =
    some (untilZero (value ++ [0]) ++ [0]) := valueOf_name_withValue hlen
  constructor
  · intro h
    refine ⟨(element_withValue ha).mp h.found, ?_, ?_⟩
    · obtain ⟨bs, hbs, hget⟩ := h.reads
      have heq : some (untilZero (value ++ [0]) ++ [0]) = some bs := by
        rw [← hvalueOf]
        apply ofBytes_inj
        intro capacity
        rw [← getSurfaceProperty_of_element h.found hread, hget]
        rfl
      rw [← name_read_iff hvalue, Option.some.inj heq]
      exact hbs.imp_right And.right
    · exact (inside_withName hlen).mp (h.fields name hread)
  · rintro ⟨hfirst, hzero, hfull⟩
    have hfound := (element_withValue ha).mpr hfirst
    have hinside := (inside_withName hlen).mpr hfull
    refine ⟨hfound, ?_, ?_, ?_⟩
    · refine ⟨untilZero (value ++ [0]) ++ [0], ?_, ?_⟩
      · exact ((name_read_iff hvalue).mpr hzero).imp_right fun h => ⟨ofString_eq_some.mp hread, h⟩
      · intro capacity
        rw [getSurfaceProperty_of_element hfound hread, hvalueOf]
        rfl
    · intro p hp
      obtain rfl : name = p := Option.some.inj (hread.symm.trans hp)
      exact hinside
    · intro other hother
      rw [others_iff ha hfound]
      intro q hq
      have hne : name ≠ q := by
        rintro rfl
        exact hother ((ofString_eq_some.mp hq).trans (ofString_eq_some.mp hread).symm)
      rw [valueOf, valueOf, if_neg hne.symm, if_neg hne.symm, hinside.field hne]

theorem sets_word (ha : s.element id = some a) (hacc : accepted property value = some p)
    (hp : p ≠ name) : Sets id property value a s (s.withValue p a value) ↔
      s.StaysFirst id p a value ∧ s.Fits p a value := by
  have hread : ofString property = some p := ofString_of_accepted hacc
  have hinside : Inside p a s (s.withValue p a value) := inside_withValue hacc hp
  constructor
  · intro h
    refine ⟨(element_withValue ha).mp h.found, ?_⟩
    by_cases hcache : p = cacheMode
    · subst hcache
      rw [← valueOf_name_withCacheMode hacc]
      have hother : "name" ≠ property := by
        rw [ofString_eq_some.mp hread]
        decide
      exact (others_iff ha h.found).mp (h.others "name" hother) name rfl
    · cases p with
      | name => exact absurd rfl hp
      | cacheMode => exact absurd rfl hcache
      | _ => trivial
  · rintro ⟨hfirst, hfits⟩
    have hfound := (element_withValue ha).mpr hfirst
    refine ⟨hfound, ⟨value, .inl rfl, ?_⟩, ?_, ?_⟩
    · intro capacity
      rw [getSurfaceProperty_of_element hfound hread, valueOf, if_neg hp,
        field_withValue_self hacc hp]
      rfl
    · intro q hq
      obtain rfl : p = q := Option.some.inj (hread.symm.trans hq)
      exact hinside
    · intro other hother
      rw [others_iff ha hfound]
      intro q hq
      have hne : p ≠ q := by
        rintro rfl
        exact hother ((ofString_eq_some.mp hq).trans (ofString_eq_some.mp hread).symm)
      by_cases hname : q = name
      · subst hname
        -- only the cache mode lies where a name can go on
        by_cases hcache : p = cacheMode
        · subst hcache
          exact (valueOf_name_withCacheMode hacc).mpr hfits
        · rw [valueOf, valueOf, peek_name, peek_name, hinside.field hne, hinside.field hcache,
            hinside.rest]
      · rw [valueOf, valueOf, if_neg hname, if_neg hname, hinside.field hne]

theorem sets_iff (ha : s.element id = some a) (hacc : accepted property value = some p)
    (hvalue : value ≠ []) : Sets id property value a s (s.withValue p a value) ↔
      s.StaysFirst id p a value ∧ s.Fits p a value := by
  by_cases hp : p = name
  · subst hp
    exact sets_name ha hacc hvalue
  · exact sets_word ha hacc hp

/-! ## Calls -/

/-- What `setSurfaceProperty` should do for a surface the manager has. -/
def SetKeeps (id : Nat) (property : Option String) (value : Option (List UInt8))
    (s : SurfaceElements) : Prop :=
  s.Live id → (s.setSurfaceProperty id property value).1 ≠ .notFound ∧
    ((s.setSurfaceProperty id property value).1 = .success →
      ∃ name bs a, property = some name ∧ value = some bs ∧ s.element id = some a ∧
        Sets id name bs a s (s.setSurfaceProperty id property value).2)

/-- The call is refused for its arguments; or an element reads as a surface of this id,
and a value that is taken fits and leaves that element the first one. -/
def SetSafe (id : Nat) (property : Option String) (value : Option (List UInt8))
    (s : SurfaceElements) : Prop :=
  s.Live id → ∀ name bs, property = some name → value = some bs → bs ≠ [] →
    ∃ a, s.element id = some a ∧ ∀ p, accepted name bs = some p →
      s.StaysFirst id p a bs ∧ s.Fits p a bs

/-- **`setSurfaceProperty`** finds the surface, keeps the value and leaves the rest exactly
if the elements read as surfaces and the value fits its field. -/
theorem setKeeps_iff_setSafe (s : SurfaceElements) (id : Nat) (property : Option String)
    (value : Option (List UInt8)) :
    s.SetKeeps id property value ↔ s.SetSafe id property value := by
  apply imp_congr_right
  intro _
  cases property with
  | none => simp [setSurfaceProperty]
  | some property =>
      cases value with
      | none => simp [setSurfaceProperty]
      | some value =>
          by_cases hvalue : value = []
          · simp [setSurfaceProperty, hvalue]
          · have hlen : value.length ≠ 0 := fun h => hvalue (List.eq_nil_of_length_eq_zero h)
            cases ha : s.element id with
            | none => simp [setSurfaceProperty, hvalue, ha]
            | some a =>
                cases hacc : accepted property value with
                | none => simp [setSurfaceProperty, hvalue, ha, hacc]
                | some p =>
                    simp [setSurfaceProperty, hvalue, ha, hacc, sets_iff ha hacc hvalue]

/-- Surface 1 in the object at 4096; `first` and `mode` are what is read there for an id
and a cache mode. -/
def oneSurface (first mode : Nat) : SurfaceElements where
  store := (SurfaceStore.start.createSurface false (.plain .bgra32 16 16)
    (.granted 0 0x10000 4096)).2
  bytes := poke (poke (fun _ => 0) 4096 (wordBytes first)) (4096 + 332) (wordBytes mode)

/-- An `OSData` object begins with the address of its virtual table, so that its surface
is not found. In a structure with a cache mode, a name of 64 bytes changes it. -/
theorem oneSurface_setSurfaceProperty :
    ¬ (oneSurface 0x00EA4C10 0).SetKeeps 1 (some "usage_flags") (some [1, 0, 0, 0]) ∧
      ¬ (oneSurface 1 2).SetKeeps 1 (some "name") (some (List.replicate 64 65)) := by
  constructor
  · intro h
    exact (h ⟨4096, rfl, rfl⟩).1 rfl
  · intro h
    obtain ⟨name, bs, a, hname, hbs, ha, hsets⟩ := (h ⟨4096, rfl, rfl⟩).2 rfl
    cases hname
    cases hbs
    obtain rfl : 4096 = a := Option.some.inj ha
    have hmode := (inside_withName (by decide)).mp (hsets.fields .name rfl) (by decide)
    exact absurd hmode (by decide)

end SurfaceElements

end VMQemuVGA
