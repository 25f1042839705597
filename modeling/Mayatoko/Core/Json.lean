import Mathlib.Data.List.Sort
import Mathlib.Data.Rat.Defs

/-!
# JSON values

The values of a JSON column, and how a program reads them: a value that is not there is `none`, and a
reader that wants a string gets none from any other value.

Two values are the same if one is the other with the fields of some of its objects in another order. To
arrange a value is to put the fields of every object in it into an order. An arranged value is the same as
the value, and where the order of the fields depends on nothing but the fields, values are the same exactly if
they are equal once arranged.
-/

namespace Mayatoko.Core

inductive Json
  | null
  | bool (b : Bool)
  | num (q : ℚ)
  | str (s : String)
  | arr (items : List Json)
  | obj (fields : List (String × Json))

namespace Json

/-- The fields of an object; those of any other value are none. -/
def fields : Json → List (String × Json)
  | obj fields => fields
  | _ => []

/-- The items of an array; those of any other value are none. -/
def items : Json → List Json
  | arr items => items
  | _ => []

def string? : Json → Option String
  | str s => some s
  | _ => none

def num? : Json → Option ℚ
  | num q => some q
  | _ => none

/-- A string field of an object. -/
def stringField (fields : List (String × Json)) (name : String) : Option String :=
  (fields.lookup name).bind string?

/-- Equal up to the order of fields. -/
inductive Same : Json → Json → Prop
  | refl (v : Json) : Same v v
  | symm {v w : Json} : Same v w → Same w v
  | trans {u v w : Json} : Same u v → Same v w → Same u w
  | fields {fs gs : List (String × Json)} : fs.Perm gs → Same (obj fs) (obj gs)
  | item {xs ys : List Json} {v w : Json} : Same v w → Same (arr (xs ++ v :: ys)) (arr (xs ++ w :: ys))
  | field {fs gs : List (String × Json)} {k : String} {v w : Json} :
      Same v w → Same (obj (fs ++ (k, v) :: gs)) (obj (fs ++ (k, w) :: gs))

/-! ### Keys -/

section Keys

variable (P : List String → Prop)

mutual

/-- The keys of every object in a value are such and such. -/
def EveryKeys : Json → Prop
  | arr items => EveryKeysItems items
  | obj fields => P (fields.map Prod.fst) ∧ EveryKeysFields fields
  | _ => True

def EveryKeysItems : List Json → Prop
  | [] => True
  | v :: vs => EveryKeys v ∧ EveryKeysItems vs

def EveryKeysFields : List (String × Json) → Prop
  | [] => True
  | (_, v) :: fs => EveryKeys v ∧ EveryKeysFields fs

end

variable {P}

lemma everyKeysItems_iff {vs : List Json} : EveryKeysItems P vs ↔ ∀ v ∈ vs, EveryKeys P v := by
  induction vs with
  | nil => simp [EveryKeysItems]
  | cons v vs ih => rw [EveryKeysItems, ih, List.forall_mem_cons]

lemma everyKeysFields_iff {fs : List (String × Json)} : EveryKeysFields P fs ↔ ∀ f ∈ fs, EveryKeys P f.2 := by
  induction fs with
  | nil => simp [EveryKeysFields]
  | cons f fs ih => rw [EveryKeysFields, ih, List.forall_mem_cons]

/-- Values that are the same have the same keys, each object in some order. -/
lemma Same.everyKeys_iff (hP : ∀ ks ks' : List String, ks.Perm ks' → P ks → P ks') {v w : Json}
    (h : Same v w) : EveryKeys P v ↔ EveryKeys P w := by
  induction h with
  | refl => rfl
  | symm _ ih => exact ih.symm
  | trans _ _ ih₁ ih₂ => exact ih₁.trans ih₂
  | fields hperm =>
    have hkeys := hperm.map Prod.fst
    simp only [EveryKeys, everyKeysFields_iff, hperm.mem_iff]
    exact and_congr_left fun _ => ⟨hP _ _ hkeys, hP _ _ hkeys.symm⟩
  | item _ ih => simp only [EveryKeys, everyKeysItems_iff, List.forall_mem_append, List.forall_mem_cons, ih]
  | field _ ih =>
    simp only [EveryKeys, everyKeysFields_iff, List.forall_mem_append, List.forall_mem_cons, ih,
      List.map_append, List.map_cons]

end Keys

/-! ### Arranged values -/

section Arranged

variable (arrange : List (String × Json) → List (String × Json))

mutual

/-- The value with the fields of every object in it arranged. -/
def arranged : Json → Json
  | arr items => arr (arrangedItems items)
  | obj fields => obj (arrange (arrangedFields fields))
  | v => v

def arrangedItems : List Json → List Json
  | [] => []
  | v :: vs => arranged v :: arrangedItems vs

def arrangedFields : List (String × Json) → List (String × Json)
  | [] => []
  | (k, v) :: fs => (k, arranged v) :: arrangedFields fs

end

variable {arrange}

lemma arrangedItems_eq (vs : List Json) : arrangedItems arrange vs = vs.map (arranged arrange) := by
  induction vs with
  | nil => rfl
  | cons v vs ih => rw [arrangedItems, ih, List.map_cons]

lemma arrangedFields_eq (fs : List (String × Json)) :
    arrangedFields arrange fs = fs.map fun f => (f.1, arranged arrange f.2) := by
  induction fs with
  | nil => rfl
  | cons f fs ih => rw [arrangedFields, ih, List.map_cons]

lemma arrangedFields_keys (fs : List (String × Json)) :
    (arrangedFields arrange fs).map Prod.fst = fs.map Prod.fst := by
  rw [arrangedFields_eq, List.map_map]
  rfl

mutual

/-- A value is the same as its arrangement. -/
lemma same_arranged (harrange : ∀ fs, (arrange fs).Perm fs) : (v : Json) → Same v (arranged arrange v)
  | null => .refl null
  | bool b => .refl (bool b)
  | num q => .refl (num q)
  | str s => .refl (str s)
  | arr items => same_arrangedItems harrange items []
  | obj fields => (same_arrangedFields harrange fields []).trans (.fields (harrange _).symm)

lemma same_arrangedItems (harrange : ∀ fs, (arrange fs).Perm fs) :
    (vs before : List Json) → Same (arr (before ++ vs)) (arr (before ++ arrangedItems arrange vs))
  | [], before => .refl _
  | v :: vs, before => by
    have hfirst : Same (arr (before ++ v :: vs)) (arr (before ++ arranged arrange v :: vs)) :=
      .item (same_arranged harrange v)
    have hrest := same_arrangedItems harrange vs (before ++ [arranged arrange v])
    rw [List.append_assoc, List.append_assoc] at hrest
    exact hfirst.trans hrest

lemma same_arrangedFields (harrange : ∀ fs, (arrange fs).Perm fs) : (fs before : List (String × Json)) →
      Same (obj (before ++ fs)) (obj (before ++ arrangedFields arrange fs))
  | [], before => .refl _
  | (k, v) :: fs, before => by
    have hfirst : Same (obj (before ++ (k, v) :: fs)) (obj (before ++ (k, arranged arrange v) :: fs)) :=
      .field (same_arranged harrange v)
    have hrest := same_arrangedFields harrange fs (before ++ [(k, arranged arrange v)])
    rw [List.append_assoc, List.append_assoc] at hrest
    exact hfirst.trans hrest

end

variable {P : List String → Prop}

/-- Where the arrangement of the fields of an object depends on nothing but the fields, values that are the
same are arranged alike. -/
lemma Same.arranged_eq (hP : ∀ ks ks' : List String, ks.Perm ks' → P ks → P ks')
    (harrange : ∀ fs gs : List (String × Json), P (fs.map Prod.fst) → fs.Perm gs → arrange fs = arrange gs)
    {v w : Json} (h : Same v w) (hkeys : EveryKeys P v) : arranged arrange v = arranged arrange w := by
  induction h with
  | refl => rfl
  | symm h ih => exact (ih ((h.everyKeys_iff hP).mpr hkeys)).symm
  | trans h _ ih₁ ih₂ => exact (ih₁ hkeys).trans (ih₂ ((h.everyKeys_iff hP).mp hkeys))
  | fields hperm =>
    rw [arranged, arranged, harrange]
    · rw [arrangedFields_keys]
      exact hkeys.1
    · rw [arrangedFields_eq, arrangedFields_eq]
      exact hperm.map _
  | item _ ih =>
    have hitem := everyKeysItems_iff.mp hkeys _ (List.mem_append_right _ List.mem_cons_self)
    simp only [arranged, arrangedItems_eq, List.map_append, List.map_cons, ih hitem]
  | field _ ih =>
    have hfield := everyKeysFields_iff.mp hkeys.2 _ (List.mem_append_right _ List.mem_cons_self)
    simp only [arranged, arrangedFields_eq, List.map_append, List.map_cons, ih hfield]

/-- So values are the same exactly if they are equal once arranged. -/
lemma same_iff_arranged_eq (hP : ∀ ks ks' : List String, ks.Perm ks' → P ks → P ks')
    (hperm : ∀ fs, (arrange fs).Perm fs)
    (harrange : ∀ fs gs : List (String × Json), P (fs.map Prod.fst) → fs.Perm gs → arrange fs = arrange gs)
    {v w : Json} (hkeys : EveryKeys P v) : Same v w ↔ arranged arrange v = arranged arrange w := by
  constructor
  · exact fun h => h.arranged_eq hP harrange hkeys
  · intro h
    exact (same_arranged hperm v).trans (h ▸ (same_arranged hperm w).symm)

end Arranged

end Json

end Mayatoko.Core
