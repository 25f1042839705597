import Mathlib.Data.List.Lattice
import Mayatoko.Common.Failure
import Mayatoko.Core.Forest
import Mayatoko.Core.Numeral
import Mayatoko.Core.Store

/-!
# Categories

What `createCategory` and `updateCategory` check and write. A category is moved only below an active one of its
company that is not below it: the search goes up from there. How a text becomes a slug is a parameter.
-/

namespace Mayatoko.MasterData

open Core

structure Category where
  id : String
  companyId : Option ℕ
  parentId : Option String := none
  (name slug : String)
  sortOrder : ℕ := 0
  isActive : Bool := true

structure Product where
  id : String
  companyId : Option ℕ
  categoryId : Option String := none
  isActive : Bool := true

structure CategoryDb where
  categories : Table Category.id := .empty
  products : Table Product.id := .empty

abbrev CategoryTx := Tx CategoryDb Failure

namespace CategoryDb

def category : TableOf CategoryDb Category.id := ⟨categories, fun db t => { db with categories := t }⟩

def categoryOf (db : CategoryDb) (companyId : ℕ) (id : String) : Option Category :=
  (db.categories.find? id).filter fun c => c.companyId = some companyId

end CategoryDb

/-- A text that is there and not empty. -/
def given (value : Option String) : Option String := value.filter (· ≠ "")

/-- The loop of `assertCategoryParent`, which goes up from `cursor`. -/
def assertNotBelow (db : CategoryDb) (companyId : ℕ) (categoryId : String) :
    ℕ → List String → Category → Except Failure Unit
  | 0, _, _ => .error (.unexpected "the loop goes on")
  | fuel + 1, visited, cursor =>
    if cursor.id = categoryId then .error (.badRequest "Hierarchy kategori membentuk siklus.")
    else match given cursor.parentId with
      | none => .ok ()
      | some parentId =>
        if parentId ∈ visited then .ok ()
        else match db.categoryOf companyId parentId with
          | none => .ok ()
          | some next => assertNotBelow db companyId categoryId fuel (cursor.id :: visited) next

def searchAbove (db : CategoryDb) (companyId : ℕ) (categoryId : Option String) (parent : Category) :
    Except Failure Unit :=
  match categoryId with
  | none => .ok ()
  | some categoryId => assertNotBelow db companyId categoryId (db.categories.rows.length + 1) [] parent

def assertCategoryParent (companyId : ℕ) (parentId categoryId : Option String) : CategoryTx (Option String) :=
  match given (parentId.map trim) with
  | none => pure none
  | some parentId => do
    require (categoryId ≠ some parentId) (.badRequest "Kategori tidak boleh menjadi parent dirinya sendiri.")
    let db ← get
    let parent ← orThrow (db.categoryOf companyId parentId)
      (.badRequest "Parent kategori tidak ditemukan pada perusahaan ini.")
    require (parent.isActive = true) (.badRequest "Parent kategori harus aktif.")
    ofExcept (searchAbove db companyId categoryId parent)
    pure (some parentId)

def assertCategoryNameAvailable (companyId : ℕ) (name : String) (parentId excludeId : Option String) :
    CategoryTx Unit := do
  let db ← get
  require (db.categories.findMany (fun c => c.companyId = some companyId && c.parentId = parentId &&
    c.name = trim name && some c.id ≠ excludeId) = [])
    (.conflict "Nama kategori sudah digunakan pada level hierarchy yang sama.")

def assertSlugFree (companyId : ℕ) (slug id : String) : CategoryTx Unit := do
  let db ← get
  require (db.categories.findMany (fun c => c.companyId = some companyId && c.slug = slug && c.id ≠ id) = [])
    (.conflict "Slug kategori sudah digunakan pada perusahaan ini.")

structure CreateCategoryDto where
  name : String
  slug : Option String := none
  parentId : Option String := none
  sortOrder : Option ℕ := none
  isActive : Option Bool := none

structure UpdateCategoryDto where
  name : Option String := none
  slug : Option String := none
  parentId : Option String := none
  sortOrder : Option ℕ := none
  isActive : Option Bool := none

variable (slugOf : String → String)

def createCategory (companyId : ℕ) (id : String) (dto : CreateCategoryDto) : CategoryTx Unit := do
  let name := trim dto.name
  let slug := slugOf ((given dto.slug).getD dto.name)
  require (name ≠ "") (.badRequest "Nama kategori wajib diisi.")
  require (slug ≠ "") (.badRequest "Slug kategori tidak valid.")
  let parentId ← assertCategoryParent companyId dto.parentId none
  assertCategoryNameAvailable companyId name parentId none
  assertSlugFree companyId slug id
  CategoryDb.category.create
    { id, companyId := some companyId, parentId, name, slug, sortOrder := dto.sortOrder.getD 0,
      isActive := dto.isActive.getD true } .uniqueViolation

def checkUnused (companyId : ℕ) (existing : Category) (isActive : Option Bool) : CategoryTx Unit := do
  let db ← get
  if isActive = some false ∧ existing.isActive = true then
    require (db.categories.findMany (fun c => c.parentId = some existing.id && c.companyId = some companyId &&
      c.isActive) = []) (.badRequest "Nonaktifkan subkategori aktif terlebih dahulu.")
    require (db.products.findMany (fun p => p.categoryId = some existing.id && p.companyId = some companyId &&
      p.isActive) = []) (.badRequest "Kategori masih digunakan produk aktif.")

def parentOfUpdate (companyId : ℕ) (existing : Category) (parentId : Option String) :
    CategoryTx (Option String) :=
  match parentId with
  | none => pure existing.parentId
  | some parentId => assertCategoryParent companyId (some parentId) (some existing.id)

def updateCategory (companyId : ℕ) (id : String) (dto : UpdateCategoryDto) : CategoryTx Unit := do
  let db ← get
  let existing ← orThrow (db.categoryOf companyId id) (.notFound "Kategori tidak ditemukan.")
  let parentId ← parentOfUpdate companyId existing dto.parentId
  let name := (dto.name.map trim).getD existing.name
  require (name ≠ "") (.badRequest "Nama kategori wajib diisi.")
  assertCategoryNameAvailable companyId name parentId (some id)
  checkUnused companyId existing dto.isActive
  let slug := (dto.slug.map slugOf).getD existing.slug
  require (dto.slug = none ∨ slug ≠ "") (.badRequest "Slug kategori tidak valid.")
  assertSlugFree companyId slug id
  let _ ← CategoryDb.category.update id (fun row => { row with
    name := (dto.name.map trim).getD row.name
    slug := (dto.slug.map slugOf).getD row.slug
    parentId := if dto.parentId = none then row.parentId else parentId
    sortOrder := dto.sortOrder.getD row.sortOrder
    isActive := dto.isActive.getD row.isActive }) .recordNotFound

/-! ### The forest of the categories -/

namespace CategoryDb

def parentOf (db : CategoryDb) (id : String) : Option String :=
  (db.categories.find? id).bind fun c => given c.parentId

structure Hierarchy (db : CategoryDb) : Prop where
  forest : Forest db.parentOf
  parents : ∀ c ∈ db.categories, ∀ p, given c.parentId = some p →
    ∃ c' ∈ db.categories, c'.id = p ∧ c'.companyId = c.companyId

variable {db db' : CategoryDb} {companyId : ℕ} {c cursor parent : Category} {id p : String}

lemma parentOf_of_mem (h : c ∈ db.categories) : db.parentOf c.id = given c.parentId := by
  rw [parentOf, find?_of_mem h, Option.bind_some]

lemma categoryOf_eq_some : db.categoryOf companyId id = some c ↔
    c ∈ db.categories ∧ c.id = id ∧ c.companyId = some companyId := by
  rw [categoryOf, Option.filter_eq_some_iff, find?_eq_some, decide_eq_true_eq, and_assoc]

/-- What has something above it is a category. -/
lemma mem_of_above {a b : String} (h : Above db.parentOf a b) : ∃ c ∈ db.categories, c.id = a := by
  obtain ⟨y, hy, _⟩ := Relation.TransGen.head'_iff.mp h
  rw [parentOf] at hy
  obtain ⟨c, hc, _⟩ := Option.bind_eq_some_iff.mp hy
  exact ⟨c, find?_eq_some.mp hc⟩

/-- In a hierarchy what is above a category is one too. -/
lemma Hierarchy.mem_of_above (h : db.Hierarchy) {a b : String} (hab : Above db.parentOf a b) :
    ∃ c ∈ db.categories, c.id = b := by
  obtain ⟨y, _, hy⟩ := Relation.TransGen.tail'_iff.mp hab
  obtain ⟨c, hc, hparent⟩ := Option.bind_eq_some_iff.mp hy
  obtain ⟨c', hc', hid, _⟩ := h.parents c (find?_eq_some.mp hc).1 b hparent
  exact ⟨c', hc', hid⟩

/-- The search finds the category wherever it is above, and it comes to an end before its turns do. The visited
categories are all different, and below the one it has come to. -/
lemma assertNotBelow_spec (id : String) (h : db.Hierarchy) {fuel : ℕ} {visited : List String}
    (hc : cursor ∈ db.categories) (hcompany : cursor.companyId = some companyId)
    (hbelow : ∀ v ∈ visited, Above db.parentOf v cursor.id) (hnodup : visited.Nodup)
    (hfuel : db.categories.rows.length ≤ fuel + visited.length) :
    (∀ message, assertNotBelow db companyId id fuel visited cursor ≠ .error (.unexpected message)) ∧
      (assertNotBelow db companyId id fuel visited cursor = .ok () →
        ¬ (cursor.id = id ∨ Above db.parentOf cursor.id id)) := by
  have hfresh : cursor.id ∉ visited := fun hmem => h.forest _ (hbelow _ hmem)
  induction fuel generalizing visited cursor with
  | zero =>
    have hsub : cursor.id :: visited ⊆ db.categories.rows.map Category.id := by
      refine List.cons_subset.mpr ⟨List.mem_map_of_mem hc, fun v hv => ?_⟩
      obtain ⟨c, hc, rfl⟩ := mem_of_above (hbelow v hv)
      exact List.mem_map_of_mem hc
    have hlength := (List.subperm_of_subset (List.nodup_cons.mpr ⟨hfresh, hnodup⟩) hsub).length_le
    rw [List.length_cons, List.length_map] at hlength
    omega
  | succ fuel ih =>
    have hparent := parentOf_of_mem hc
    rw [assertNotBelow]
    by_cases hid : cursor.id = id
    · rw [if_pos hid]
      exact ⟨fun message => by simp, fun hok => by cases hok⟩
    rw [if_neg hid]
    cases hgiven : given cursor.parentId with
    | none =>
      rw [hgiven] at hparent
      exact ⟨fun message => by simp, fun _ habove => not_above_of_root hparent (habove.resolve_left hid)⟩
    | some p =>
      rw [hgiven] at hparent
      have hnew : p ∉ visited := fun hmem => h.forest _ (.head hparent (hbelow p hmem))
      obtain ⟨next, hnext, rfl, hcompany'⟩ := h.parents cursor hc p hgiven
      rw [hcompany] at hcompany'
      dsimp only
      rw [if_neg hnew, categoryOf_eq_some.mpr ⟨hnext, rfl, hcompany'⟩]
      have hbelow' : ∀ v ∈ cursor.id :: visited, Above db.parentOf v next.id :=
        List.forall_mem_cons.mpr ⟨.single hparent, fun v hv => (hbelow v hv).tail hparent⟩
      have hrest := ih hnext hcompany' hbelow' (List.nodup_cons.mpr ⟨hfresh, hnodup⟩)
        (by rw [List.length_cons]; omega) fun hmem => h.forest _ (hbelow' _ hmem)
      exact ⟨hrest.1, fun hok habove => hrest.2 hok ((habove.resolve_left hid).through hparent)⟩

lemma searchAbove_spec (h : db.Hierarchy) {categoryId : Option String} (hparent : parent ∈ db.categories)
    (hcompany : parent.companyId = some companyId) :
    (∀ message, searchAbove db companyId categoryId parent ≠ .error (.unexpected message)) ∧
      (searchAbove db companyId categoryId parent = .ok () →
        ∀ id, categoryId = some id → ¬ (parent.id = id ∨ Above db.parentOf parent.id id)) := by
  cases categoryId with
  | none => exact ⟨fun message => by simp [searchAbove], fun _ id hid => by cases hid⟩
  | some id =>
    have hvisited : ∀ v ∈ ([] : List String), Above db.parentOf v parent.id := fun _ hv => absurd hv List.not_mem_nil
    have hturns : db.categories.rows.length ≤ db.categories.rows.length + 1 + ([] : List String).length := by omega
    have hspec := assertNotBelow_spec id h hparent hcompany hvisited List.nodup_nil hturns
    refine ⟨hspec.1, fun hok id' hid => ?_⟩
    cases hid
    exact hspec.2 hok

lemma parentOf_write {row : Category} :
    (category.write db row).parentOf = Function.update db.parentOf row.id (given row.parentId) := by
  funext id
  have htable : (category.write db row).categories = db.categories.put row := rfl
  rw [parentOf, htable, Table.find?_put]
  by_cases hid : id = row.id
  · rw [if_pos hid, hid, Function.update_self, Option.bind_some]
  · rw [if_neg hid, Function.update_of_ne hid, parentOf]

/-- Writing a row keeps the hierarchy if its parent is a category of its company that is not below it, and if its
company is the one that it has had. -/
lemma Hierarchy.write (h : db.Hierarchy) {row : Category}
    (hcompany : ∀ c ∈ db.categories, c.id = row.id → c.companyId = row.companyId)
    (hparent : ∀ p, given row.parentId = some p → ¬ (p = row.id ∨ Above db.parentOf p row.id) ∧
      ∃ c ∈ db.categories, c.id = p ∧ c.companyId = row.companyId) : (category.write db row).Hierarchy := by
  have htable : (category.write db row).categories = db.categories.put row := rfl
  have hkept : ∀ c ∈ db.categories, ∃ c' ∈ (category.write db row).categories,
      c'.id = c.id ∧ c'.companyId = c.companyId := by
    intro c hc
    by_cases hid : c.id = row.id
    · exact ⟨row, mem_put_self _ _, hid.symm, (hcompany c hc hid).symm⟩
    · exact ⟨c, mem_put.mpr (.inr ⟨hc, hid⟩), rfl, rfl⟩
  constructor
  · rw [parentOf_write]
    cases hp : given row.parentId with
    | none => exact h.forest.update_none
    | some p => exact h.forest.update (hparent p hp).1
  · intro c hc p hp
    rw [htable, mem_put] at hc
    obtain ⟨c', hc', hid, hsame⟩ : ∃ c' ∈ db.categories, c'.id = p ∧ c'.companyId = c.companyId := by
      rcases hc with rfl | ⟨hc, _⟩
      · exact (hparent p hp).2
      · exact h.parents c hc p hp
    obtain ⟨c'', hc'', hid', hsame'⟩ := hkept c' hc'
    exact ⟨c'', hc'', hid'.trans hid, hsame'.trans hsame⟩

/-- A row whose parent is what it has been stays where it is. -/
lemma Hierarchy.unmoved (h : db.Hierarchy) {row : Category} (hc : c ∈ db.categories) (hid : c.id = row.id)
    (hcompany : c.companyId = row.companyId) (hparent : given c.parentId = some p) :
    ¬ (p = row.id ∨ Above db.parentOf p row.id) ∧ ∃ c' ∈ db.categories, c'.id = p ∧ c'.companyId = row.companyId := by
  obtain ⟨c', hc', hp, hsame⟩ := h.parents c hc p hparent
  have hedge : db.parentOf row.id = some p := by rw [← hid, parentOf_of_mem hc, hparent]
  refine ⟨fun habove => ?_, c', hc', hp, hsame.trans hcompany⟩
  obtain rfl | habove := habove
  · exact h.forest _ (.single hedge)
  · exact h.forest _ (.head hedge habove)

end CategoryDb

open CategoryDb TableOf

variable {slugOf} {db db' : CategoryDb} {companyId : ℕ} {id : String} {u : Unit} {parentId : Option String}

lemma assertCategoryParent_commits {requested categoryId : Option String} (h : db.Hierarchy)
    (hcommits : Commits (assertCategoryParent companyId requested categoryId) db parentId db') :
    db' = db ∧ ∀ p, given parentId = some p → (∀ id, categoryId = some id → ¬ (p = id ∨ Above db.parentOf p id)) ∧
      ∃ c ∈ db.categories, c.id = p ∧ c.companyId = some companyId := by
  unfold assertCategoryParent at hcommits
  cases hgiven : given (requested.map trim) with
  | none =>
    rw [hgiven] at hcommits
    obtain ⟨rfl, rfl⟩ := commits_pure.mp hcommits
    exact ⟨rfl, fun p hp => by cases hp⟩
  | some p =>
    rw [hgiven] at hcommits
    simp only [commits_steps] at hcommits
    obtain ⟨_, parent, hparent, _, _, hsearch, rfl, rfl⟩ := hcommits
    obtain ⟨hmem, rfl, hcompany⟩ := categoryOf_eq_some.mp hparent
    refine ⟨rfl, fun p hp => ?_⟩
    obtain rfl : parent.id = p := by
      obtain ⟨hsome, _⟩ := Option.filter_eq_some_iff.mp hp
      exact Option.some.inj hsome
    exact ⟨(searchAbove_spec h hmem hcompany).2 hsearch, parent, hmem, rfl, hcompany⟩

lemma createCategory_hierarchy {dto : CreateCategoryDto} (h : db.Hierarchy)
    (hcommits : Commits (createCategory slugOf companyId id dto) db u db') : db'.Hierarchy := by
  simp only [createCategory, assertCategoryNameAvailable, assertSlugFree, commits_steps] at hcommits
  obtain ⟨_, _, parentId, t, hparent, _, _, hcreate⟩ := hcommits
  obtain ⟨rfl, hparent⟩ := assertCategoryParent_commits h hparent
  obtain ⟨hfresh, rfl⟩ := commits_create.mp hcreate
  have hnew : ∀ c ∈ t.categories, c.id ≠ id := find?_eq_none.mp hfresh
  refine h.write (fun c hc hid => absurd hid (hnew c hc)) fun p hp => ?_
  obtain ⟨_, c, hc, rfl, hcompany⟩ := hparent p hp
  refine ⟨?_, c, hc, rfl, hcompany⟩
  rintro (hid | habove)
  · exact hnew c hc hid
  · obtain ⟨c', hc', hid⟩ := h.mem_of_above habove
    exact hnew c' hc' hid

lemma checkUnused_commits {existing : Category} {isActive : Option Bool}
    (hcommits : Commits (checkUnused companyId existing isActive) db u db') : db' = db := by
  simp only [checkUnused, commits_get_bind, commits_ite, commits_require_bind, commits_require,
    commits_pure] at hcommits
  obtain ⟨_, _, _, rfl⟩ | ⟨_, _, rfl⟩ := hcommits
  · rfl
  · rfl

/-- The parent that an update writes. -/
lemma parentOfUpdate_commits {requested : Option String} {existing : Category} (h : db.Hierarchy)
    (hmem : existing ∈ db.categories) (hcompany : existing.companyId = some companyId)
    (hcommits : Commits (parentOfUpdate companyId existing requested) db parentId db') :
    db' = db ∧ ∀ p, given (if requested = none then existing.parentId else parentId) = some p →
      ¬ (p = existing.id ∨ Above db.parentOf p existing.id) ∧
        ∃ c ∈ db.categories, c.id = p ∧ c.companyId = existing.companyId := by
  cases requested with
  | none =>
    obtain ⟨rfl, rfl⟩ := commits_pure.mp hcommits
    exact ⟨rfl, fun p hp => h.unmoved hmem rfl rfl hp⟩
  | some requested =>
    obtain ⟨rfl, hparent⟩ := assertCategoryParent_commits h hcommits
    refine ⟨rfl, fun p hp => ?_⟩
    obtain ⟨hbelow, hthere⟩ := hparent p hp
    rw [hcompany]
    exact ⟨hbelow _ rfl, hthere⟩

lemma updateCategory_hierarchy {dto : UpdateCategoryDto} (h : db.Hierarchy)
    (hcommits : Commits (updateCategory slugOf companyId id dto) db u db') : db'.Hierarchy := by
  simp only [updateCategory, assertCategoryNameAvailable, assertSlugFree, commits_steps] at hcommits
  obtain ⟨existing, hexisting, parentId, t, hparent, _, _, _, t', hunused, _, _, _, _, hupdate, _, rfl⟩ := hcommits
  obtain ⟨hmem, rfl, hcompany⟩ := categoryOf_eq_some.mp hexisting
  obtain ⟨rfl, hparent⟩ := parentOfUpdate_commits h hmem hcompany hparent
  obtain rfl := checkUnused_commits hunused
  obtain ⟨row, hrow, _, rfl⟩ := commits_update.mp hupdate
  obtain rfl : existing = row := Option.some.inj ((find?_of_mem hmem).symm.trans hrow)
  refine h.write (fun c hc hid => ?_) hparent
  rw [eq_of_key_eq hc hmem hid]

/-! ### Runs -/

inductive CategoryCall
  | create (companyId : ℕ) (id : String) (dto : CreateCategoryDto)
  | update (companyId : ℕ) (id : String) (dto : UpdateCategoryDto)
  | products (rows : Table Product.id)

def CategoryCall.tx (slugOf : String → String) : CategoryCall → CategoryTx Unit
  | .create companyId id dto => createCategory slugOf companyId id dto
  | .update companyId id dto => updateCategory slugOf companyId id dto
  | .products rows => modify fun db => { db with products := rows }

def CategoryStep (slugOf : String → String) (db : CategoryDb) (call : CategoryCall) (db' : CategoryDb) : Prop :=
  (execute (call.tx slugOf) db).2 = db'

lemma categoryStep_hierarchy {call : CategoryCall} (h : db.Hierarchy) (hstep : CategoryStep slugOf db call db') :
    db'.Hierarchy := by
  obtain ⟨_, _, hcommits⟩ | ⟨_, _, hsame⟩ := execute_cases (call.tx slugOf) db
  · rw [CategoryStep] at hstep
    rw [hstep] at hcommits
    cases call with
    | create companyId id dto => exact createCategory_hierarchy h hcommits
    | update companyId id dto => exact updateCategory_hierarchy h hcommits
    | products rows =>
      obtain rfl := commits_modify.mp hcommits
      exact ⟨h.forest, h.parents⟩
  · rw [← hstep, hsame]
    exact h

/-- Whatever calls are made one after another, the categories are a forest in which each one's parent is a category
of its company, and the search above a category ends within its turns. -/
theorem categories_hierarchy (slugOf : String → String) {db db' : CategoryDb} {calls : List CategoryCall}
    (h : db.Hierarchy) (hrun : Run (CategoryStep slugOf) db calls db') :
    db'.Hierarchy ∧ ∀ companyId categoryId parent, parent ∈ db'.categories → parent.companyId = some companyId →
      ∀ message, searchAbove db' companyId categoryId parent ≠ .error (.unexpected message) := by
  have hafter : db'.Hierarchy :=
    Run.invariant (I := CategoryDb.Hierarchy) (fun _ _ _ hs hstep => categoryStep_hierarchy hs hstep) hrun h
  exact ⟨hafter, fun companyId categoryId parent hmem hcompany => (searchAbove_spec hafter hmem hcompany).1⟩

lemma noCategories_hierarchy : CategoryDb.Hierarchy {} :=
  ⟨fun _ h => by
    obtain ⟨c, hc, _⟩ := mem_of_above h
    exact absurd hc (not_mem_empty c), fun c hc => absurd hc (not_mem_empty c)⟩

def shoes : List CategoryCall :=
  [.create 1 "a" { name := "Sepatu " }, .create 1 "b" { name := "Sandal", parentId := some "a" },
    .create 1 "c" { name := "Sandal anak", parentId := some "b" }]

/-- Shoes are not moved below their own sandals. -/
theorem categories_hierarchy_shoes : ∃ db, Run (CategoryStep trim) {} shoes db ∧ db.Hierarchy ∧
    db.categories.rows.map Category.parentId = [none, some "a", some "b"] ∧
    (execute (updateCategory trim 1 "a" { parentId := some "c" }) db).1 =
      .error (.badRequest "Hierarchy kategori membentuk siklus.") := by
  have hrun : Run (CategoryStep trim) {} shoes _ := Run.cons rfl (Run.cons rfl (Run.cons rfl (Run.nil _)))
  exact ⟨_, hrun, (categories_hierarchy trim noCategories_hierarchy hrun).1, by decide +kernel, by decide +kernel⟩

end Mayatoko.MasterData
