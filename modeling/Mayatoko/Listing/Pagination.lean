import Mathlib.Data.Prod.Lex
import Mathlib.Data.String.Basic
import Mayatoko.Common.Failure
import Mayatoko.Core.Checked
import Mayatoko.Core.JsonText
import Mayatoko.Core.Paging

/-!
# Lists in pages

`common/pagination.ts`, and the lists that are read with it from the newest row to the oldest. A page is read
with one row more than it holds, and where that row exists, the next page begins after the last one given, whose
creation and id are its cursor. A client that follows the cursors gets every row that is there all the while
exactly once.

Both lists give the rows of a company and branch whose items are all of products of the company, in pages.
-/

namespace Mayatoko.Listing

open Core

/-- A time that a `Date` holds, in milliseconds since the start of 1970. -/
@[ext] structure Instant where
  ms : ℤ
  valid : -8640000000000000 ≤ ms ∧ ms ≤ 8640000000000000
  deriving DecidableEq

structure Host (α : Type) where
  /-- `Number`, of the finite values. -/
  number : String → Option ℚ
  numbers : NumberText
  /-- `JSON.parse`. -/
  parse : String → Option Json
  toBase64url : String → String
  fromBase64url : String → String
  toISOString : Instant → String
  /-- `new Date` of a value that may be missing. -/
  newDate : Option Json → Option Instant
  /-- The place of a text in the order of the database. -/
  collate : String → α

def cursorFields (createdAt id : String) : List (String × Json) :=
  [("createdAt", .str createdAt), ("id", .str id)]

structure Host.Documented {α : Type} (host : Host α) : Prop where
  parse_stringify : ∀ createdAt id,
    host.parse (Json.stringify host.numbers (.obj (cursorFields createdAt id))) =
      some (.obj (cursorFields createdAt id))
  fromBase64url_toBase64url : ∀ s, host.fromBase64url (host.toBase64url s) = s
  toBase64url_ne_empty : ∀ s, s ≠ "" → host.toBase64url s ≠ ""
  newDate_toISOString : ∀ t, host.newDate (some (.str (host.toISOString t))) = some t
  collate_injective : Function.Injective host.collate

variable {α : Type} [LinearOrder α] (host : Host α)

/-! ### Pages -/

def defaultPageLimit : ℕ := 50

def maxPublicPageLimit : ℕ := 100

def parsePageLimit (value : Option String) (maximum : ℕ := maxPublicPageLimit) : Except Failure ℕ :=
  if value.getD "" = "" then pure defaultPageLimit
  else
    match host.number (value.getD "") with
    | some parsed =>
      if parsed.den = 1 ∧ 1 ≤ parsed.num then pure (min parsed.num.toNat maximum)
      else throw (.badRequest "limit harus berupa bilangan bulat positif.")
    | none => throw (.badRequest "limit harus berupa bilangan bulat positif.")

def encodeCursor (payload : List (String × Json)) : String :=
  host.toBase64url (Json.stringify host.numbers (.obj payload))

def decodeCursor (cursor : Option String) : Except Failure (Option (List (String × Json))) :=
  if cursor.getD "" = "" then pure none
  else
    match host.parse (host.fromBase64url (cursor.getD "")) with
    | some (.obj fields) => pure (some fields)
    | _ => throw (.badRequest "cursor tidak valid.")

structure CursorPage (ρ : Type) where
  items : List ρ
  limit : ℕ
  nextCursor : Option String
  hasMore : Bool

def toCursorPage {ρ : Type} (rows : List ρ) (limit : ℕ) (cursorOf : ρ → List (String × Json)) : CursorPage ρ :=
  let hasMore := decide (limit < rows.length)
  let items := if hasMore then rows.take limit else rows
  { items, limit, hasMore
    nextCursor := if hasMore then items.getLast?.map fun last => encodeCursor host (cursorOf last) else none }

/-! ### Lists from the newest row on -/

/-- The rows that a cursor leaves. A date that is not valid, or an id that is no text, is refused by the
database client; without an id there is no condition on it. -/
def cursorFilter (cursor : List (String × Json)) : Except Failure (Instant → String → Bool) :=
  match host.newDate (cursor.lookup "createdAt") with
  | none => throw (.unexpected "Invalid value for argument `lt`: Provided Date object is invalid.")
  | some date =>
    match cursor.lookup "id" with
    | none => pure fun createdAt _ => createdAt.ms < date.ms || createdAt.ms = date.ms
    | some (.str last) => pure fun createdAt id =>
        createdAt.ms < date.ms || createdAt.ms = date.ms && host.collate id < host.collate last
    | some _ => throw (.unexpected "Argument `lt`: Invalid value provided. Expected String.")

def optionalFilter (cursor : Option (List (String × Json))) : Except Failure (Instant → String → Bool) :=
  match cursor with
  | some cursor => cursorFilter host cursor
  | none => pure fun _ _ => true

section

variable {ρ : Type} (id : ρ → String) (createdAt : ρ → Instant) (visible : ρ → Bool)

def position (r : ρ) : ℤ ×ₗ α :=
  toLex ((createdAt r).ms, host.collate (id r))

def cursorOf (item : ρ) : List (String × Json) :=
  cursorFields (host.toISOString (createdAt item)) (id item)

/-- A page of the rows that are visible, the newest first. -/
def listPage (table : Table id) (limitValue cursorValue : Option String) : Except Failure (CursorPage ρ) := do
  let limit ← parsePageLimit host limitValue
  let cursor ← decodeCursor host cursorValue
  let filter ← optionalFilter host cursor
  let rows := (table.findSorted (fun r => visible r && filter (createdAt r) (id r))
    fun a b => position host id createdAt b ≤ position host id createdAt a).take (limit + 1)
  pure (toCursorPage host rows limit (cursorOf host id createdAt))

variable {id}

/-- The rows that a client gets that asks a list for the page of a cursor and follows the cursors to the end,
with the tables that its requests find and the limits that they name. -/
inductive Follows (list : Table id → Option String → Option String → Except Failure (CursorPage ρ)) :
    Option String → List (Table id × Option String) → List ρ → Prop
  | last {cursor limitValue : Option String} {table : Table id} {page : CursorPage ρ}
    (h : list table limitValue cursor = .ok page) (hnone : page.nextCursor = none) :
    Follows list cursor [(table, limitValue)] page.items
  | next {cursor limitValue : Option String} {table : Table id} {page : CursorPage ρ} {next : String}
    {requests : List (Table id × Option String)} {rows : List ρ} (h : list table limitValue cursor = .ok page)
    (hsome : page.nextCursor = some next) (hrest : Follows list (some next) requests rows) :
    Follows list cursor ((table, limitValue) :: requests) (page.items ++ rows)

def Handed (list : Table id → Option String → Option String → Except Failure (CursorPage ρ))
    (cursor : Option String) : Prop :=
  ∀ text, cursor = some text → ∃ table limitValue before page,
    list table limitValue before = .ok page ∧ page.nextCursor = some text

/-- A client that follows the cursors of a list is answered, and gets the rows that are visible all the while
exactly once and from the newest to the oldest. -/
structure ListsOnce (createdAt : ρ → Instant) (visible : ρ → Bool)
    (list : Table id → Option String → Option String → Except Failure (CursorPage ρ)) : Prop where
  answers : ∀ cursor, Handed list cursor → ∀ table limitValue limit,
    parsePageLimit host limitValue = .ok limit → ∃ page, list table limitValue cursor = .ok page
  ordered : ∀ requests rows, Follows list none requests rows →
    rows.Pairwise fun a b => position host id createdAt b < position host id createdAt a
  found : ∀ requests rows, Follows list none requests rows →
    ∀ r ∈ rows, ∃ request ∈ requests, r ∈ request.1 ∧ visible r = true
  once : ∀ requests rows, Follows list none requests rows →
    ∀ k t, (∀ request ∈ requests, ∃ r ∈ request.1, id r = k ∧ createdAt r = t ∧ visible r = true) →
      (rows.map id).count k = 1

variable {host} (hhost : host.Documented)

include hhost

omit [LinearOrder α] in
lemma decodeCursor_encodeCursor (t i : String) :
    decodeCursor host (some (encodeCursor host (cursorFields t i))) = .ok (some (cursorFields t i)) := by
  have htext : Json.stringify host.numbers (.obj (cursorFields t i)) ≠ "" := by
    intro h
    have hchars := congrArg String.toList h
    rw [Json.stringify, String.toList_ofList] at hchars
    cases hchars
  have hne := hhost.toBase64url_ne_empty _ htext
  rw [decodeCursor, Option.getD_some, encodeCursor, if_neg hne, hhost.fromBase64url_toBase64url,
    hhost.parse_stringify]
  rfl

lemma cursorFilter_cursorFields (t : Instant) (i : String) :
    cursorFilter host (cursorFields (host.toISOString t) i) = .ok fun created id =>
      created.ms < t.ms || created.ms = t.ms && host.collate id < host.collate i := by
  have hdate : (cursorFields (host.toISOString t) i).lookup "createdAt" = some (.str (host.toISOString t)) :=
    rfl
  have hid : (cursorFields (host.toISOString t) i).lookup "id" = some (.str i) := rfl
  rw [cursorFilter, hdate, hhost.newDate_toISOString, hid]
  rfl

/-! ### Pages are readings -/

omit hhost [LinearOrder α] in
lemma one_le_of_parsePageLimit {value : Option String} {limit : ℕ} (h : parsePageLimit host value = .ok limit) :
    1 ≤ limit := by
  rw [parsePageLimit] at h
  split at h
  · obtain rfl := pure_eq_ok.mp h
    decide
  · split at h
    next parsed _ =>
      split at h
      next hparsed =>
        obtain rfl := pure_eq_ok.mp h
        exact le_min (by omega) (by decide)
      next => exact absurd h throw_ne_ok
    next => exact absurd h throw_ne_ok

def place (host : Host α) (id : ρ → String) (createdAt : ρ → Instant) (r : ρ) : (ℤ ×ₗ α)ᵒᵈ :=
  OrderDual.toDual (position host id createdAt r)

def cursorText (host : Host α) (id : ρ → String) (createdAt : ρ → Instant) (c : ρ) : String :=
  encodeCursor host (cursorOf host id createdAt c)

omit hhost in
lemma place_lt_iff (c x : ρ) : place host id createdAt c < place host id createdAt x ↔
    (createdAt x).ms < (createdAt c).ms ∨
      (createdAt x).ms = (createdAt c).ms ∧ host.collate (id x) < host.collate (id c) := by
  rw [place, place, OrderDual.toDual_lt_toDual, position, position, Prod.Lex.toLex_lt_toLex]

lemma listPage_eq (table : Table id) (limitValue : Option String) (bound : Option ρ) :
    listPage host id createdAt visible table limitValue (bound.map (cursorText host id createdAt)) =
      (parsePageLimit host limitValue >>= fun limit => pure (toCursorPage host
        ((table.rowsAfter (place host id createdAt) visible (bound.map (place host id createdAt))).take
          (limit + 1)) limit (cursorOf host id createdAt))) := by
  rw [listPage]
  congr 1
  funext limit
  cases bound with
  | none => rfl
  | some c =>
    have hdecode : decodeCursor host (some (cursorText host id createdAt c)) =
        .ok (some (cursorOf host id createdAt c)) := decodeCursor_encodeCursor hhost _ _
    have hfilter := cursorFilter_cursorFields hhost (createdAt c) (id c)
    have hrows : table.findSorted (fun r => visible r && ((createdAt r).ms < (createdAt c).ms ||
          (createdAt r).ms = (createdAt c).ms && host.collate (id r) < host.collate (id c)))
          (fun a b => position host id createdAt b ≤ position host id createdAt a) =
        table.rowsAfter (place host id createdAt) visible (some (place host id createdAt c)) := by
      rw [Table.rowsAfter]
      congr 1
      funext r
      rw [Option.all_some, decide_eq_decide.mpr (place_lt_iff createdAt c r), Bool.decide_or, Bool.decide_and]
    rw [Option.map_some, hdecode]
    change (cursorFilter host (cursorFields (host.toISOString (createdAt c)) (id c)) >>= _) = _
    rw [hfilter]
    exact congrArg (fun rows => (pure (toCursorPage host (rows.take (limit + 1)) limit
      (cursorOf host id createdAt)) : Except Failure (CursorPage ρ))) hrows

omit hhost [LinearOrder α] in
/-- A page holds all rows that are left, or the first of them and the cursor after its last one. -/
lemma toCursorPage_cases (host : Host α) (rows : List ρ) {limit : ℕ} (hlimit : 1 ≤ limit) :
    (rows.length ≤ limit ∧
      (toCursorPage host (rows.take (limit + 1)) limit (cursorOf host id createdAt)).items = rows ∧
      (toCursorPage host (rows.take (limit + 1)) limit (cursorOf host id createdAt)).nextCursor = none) ∨
    ∃ c, (rows.take limit).getLast? = some c ∧
      (toCursorPage host (rows.take (limit + 1)) limit (cursorOf host id createdAt)).items = rows.take limit ∧
      (toCursorPage host (rows.take (limit + 1)) limit (cursorOf host id createdAt)).nextCursor =
        some (cursorText host id createdAt c) := by
  by_cases hall : rows.length ≤ limit
  · left
    have htake : rows.take (limit + 1) = rows := List.take_of_length_le (by omega)
    refine ⟨hall, ?_, ?_⟩
    · rw [toCursorPage, htake, decide_eq_false (not_lt.mpr hall)]
      rfl
    · rw [toCursorPage, htake, decide_eq_false (not_lt.mpr hall)]
      rfl
  · right
    have hmore : limit < (rows.take (limit + 1)).length := by
      rw [List.length_take]
      omega
    have htake : (rows.take (limit + 1)).take limit = rows.take limit := by
      rw [List.take_take, min_eq_left (by omega)]
    have hne : rows.take limit ≠ [] := by
      intro hnil
      have hlength := congrArg List.length hnil
      rw [List.length_take, List.length_nil] at hlength
      omega
    refine ⟨(rows.take limit).getLast hne, List.getLast?_eq_some_getLast hne, ?_, ?_⟩
    · rw [toCursorPage, decide_eq_true hmore, htake]
      rfl
    · rw [toCursorPage, decide_eq_true hmore, htake]
      change ((rows.take limit).getLast?.map fun c => encodeCursor host (cursorOf host id createdAt c)) = _
      rw [List.getLast?_eq_some_getLast hne]
      rfl

omit hhost [LinearOrder α] in
lemma exists_cursorText {rows : List ρ} {limit : ℕ} {text : String}
    (h : (toCursorPage host rows limit (cursorOf host id createdAt)).nextCursor = some text) :
    ∃ c, text = cursorText host id createdAt c := by
  simp only [toCursorPage] at h
  split at h
  · obtain ⟨c, _, rfl⟩ := Option.map_eq_some_iff.mp h
    exact ⟨c, rfl⟩
  · cases h

omit hhost in
lemma Handed.exists_bound {cursor : Option String} (h : Handed (listPage host id createdAt visible) cursor) :
    ∃ bound : Option ρ, cursor = bound.map (cursorText host id createdAt) := by
  cases cursor with
  | none => exact ⟨none, rfl⟩
  | some text =>
    obtain ⟨table, limitValue, before, page, hpage, hnext⟩ := h text rfl
    simp only [listPage, bind_eq_ok, pure_eq_ok] at hpage
    obtain ⟨limit, _, cursor, _, filter, _, rfl⟩ := hpage
    obtain ⟨c, rfl⟩ := exists_cursorText createdAt hnext
    exact ⟨some c, rfl⟩

/-- A client that follows the cursors reads the tables page by page. -/
lemma Follows.readsPages {cursor : Option String} {requests : List (Table id × Option String)} {rows : List ρ}
    (h : Follows (listPage host id createdAt visible) cursor requests rows) (bound : Option ρ)
    (hcursor : cursor = bound.map (cursorText host id createdAt)) :
    ∃ found : List (Table id × ℕ), found.map Prod.fst = requests.map Prod.fst ∧
      ReadsPages (place host id createdAt) visible (bound.map (place host id createdAt)) found rows := by
  induction h generalizing bound with
  | @last cursor limitValue table page hpage hnone =>
    rw [hcursor, listPage_eq createdAt visible hhost, bind_eq_ok] at hpage
    obtain ⟨limit, hlimit, hpage⟩ := hpage
    obtain rfl := pure_eq_ok.mp hpage
    obtain ⟨hall, hitems, _⟩ | ⟨c, _, _, hsome⟩ := toCursorPage_cases createdAt host
      (table.rowsAfter (place host id createdAt) visible (bound.map (place host id createdAt)))
      (one_le_of_parsePageLimit hlimit)
    · rw [hitems]
      exact ⟨[(table, limit)], rfl, .last hall⟩
    · exact absurd (hsome.symm.trans hnone) (by simp only [reduceCtorEq, not_false_eq_true])
  | @next cursor limitValue table page next requests rows hpage hsome hrest ih =>
    rw [hcursor, listPage_eq createdAt visible hhost, bind_eq_ok] at hpage
    obtain ⟨limit, hlimit, hpage⟩ := hpage
    obtain rfl := pure_eq_ok.mp hpage
    obtain ⟨_, _, hnone⟩ | ⟨c, hc, hitems, hnext⟩ := toCursorPage_cases createdAt host
      (table.rowsAfter (place host id createdAt) visible (bound.map (place host id createdAt)))
      (one_le_of_parsePageLimit hlimit)
    · exact absurd (hnone.symm.trans hsome) (by simp only [reduceCtorEq, not_false_eq_true])
    · obtain ⟨found, hfound, hreads⟩ := ih (some c) (hsome.symm.trans hnext)
      rw [hitems]
      exact ⟨(table, limit) :: found, by rw [map_cons, map_cons, hfound], .next hc hreads⟩

/-- A list with cursors of its rows gives the rows that are there all the while once. -/
theorem listsOnce : ListsOnce host createdAt visible (listPage host id createdAt visible) := by
  have hplaced (found : List (Table id × ℕ)) : Placed (place host id createdAt) found := by
    intro f _ a _ b _ hab
    have hpair := congrArg (fun q => (ofLex (OrderDual.ofDual q)).2) hab
    exact hhost.collate_injective hpair
  constructor
  case answers =>
    intro cursor hcursor table limitValue limit hlimit
    obtain ⟨bound, rfl⟩ := hcursor.exists_bound createdAt visible
    rw [listPage_eq createdAt visible hhost, hlimit]
    exact ⟨_, rfl⟩
  case ordered =>
    intro requests rows h
    obtain ⟨found, _, hreads⟩ := h.readsPages createdAt visible hhost none rfl
    exact hreads.pairwise (hplaced found)
  case found =>
    intro requests rows h r hr
    obtain ⟨found, hfound, hreads⟩ := h.readsPages createdAt visible hhost none rfl
    obtain ⟨⟨f, hf, hmem, hvisible⟩, _⟩ := hreads.mem hr
    have htable : f.1 ∈ requests.map Prod.fst := hfound ▸ mem_map_of_mem hf
    obtain ⟨request, hrequest, heq⟩ := mem_map.mp htable
    exact ⟨request, hrequest, heq ▸ hmem, hvisible⟩
  case once =>
    intro requests rows h k t hthere
    obtain ⟨found, hfound, hreads⟩ := h.readsPages createdAt visible hhost none rfl
    refine hreads.count_eq_one (hplaced found) (b := OrderDual.toDual (toLex (t.ms, host.collate k)))
      fun f hf => ?_
    have htable : f.1 ∈ requests.map Prod.fst := hfound ▸ mem_map_of_mem hf
    obtain ⟨request, hrequest, heq⟩ := mem_map.mp htable
    obtain ⟨r, hr, hk, ht, hvisible⟩ := hthere request hrequest
    refine ⟨r, heq ▸ hr, hk, ?_, hvisible⟩
    rw [place, position, hk, ht]

end

/-! ### The lists of purchase orders and of sales -/

structure TenantScope where
  (companyId branchId : ℕ)

structure PurchaseOrder where
  id : String
  createdAt : Instant
  (warehouseBranchId warehouseCompanyId supplierCompanyId : ℕ)
  productCompanyIds : List ℕ

structure Sale where
  id : String
  createdAt : Instant
  (branchId branchCompanyId : ℕ)
  productCompanyIds : List ℕ
  deriving DecidableEq

def PurchaseOrder.inScope (scope : TenantScope) (order : PurchaseOrder) : Bool :=
  order.warehouseBranchId = scope.branchId && order.warehouseCompanyId = scope.companyId &&
    order.supplierCompanyId = scope.companyId && order.productCompanyIds.all fun c => c = scope.companyId

def Sale.inScope (scope : TenantScope) (sale : Sale) : Bool :=
  sale.branchId = scope.branchId && sale.branchCompanyId = scope.companyId &&
    sale.productCompanyIds.all fun c => c = scope.companyId

section

variable {α : Type} [LinearOrder α] (host : Host α) (scope : TenantScope)

/-- `list` of `PurchaseOrdersService`. -/
def PurchaseOrder.list (orders : Table PurchaseOrder.id) (limitValue cursorValue : Option String) :
    Except Failure (CursorPage PurchaseOrder) :=
  listPage host PurchaseOrder.id PurchaseOrder.createdAt (PurchaseOrder.inScope scope) orders limitValue
    cursorValue

/-- `list` of `SalesService`. -/
def Sale.list (sales : Table Sale.id) (limitValue cursorValue : Option String) :
    Except Failure (CursorPage Sale) :=
  listPage host Sale.id Sale.createdAt (Sale.inScope scope) sales limitValue cursorValue

/-- A client that follows the cursors of either list gets the rows that are there all the while exactly once,
from the newest to the oldest. -/
theorem ordersAndSales_listedOnce (hhost : host.Documented) :
    ListsOnce host PurchaseOrder.createdAt (PurchaseOrder.inScope scope) (PurchaseOrder.list host scope) ∧
      ListsOnce host Sale.createdAt (Sale.inScope scope) (Sale.list host scope) :=
  ⟨listsOnce _ _ hhost, listsOnce _ _ hhost⟩

end

/-! ### Two sales of one instant -/

noncomputable def plainHost : Host String where
  number s := s.toNat?.map fun n => (n : ℚ)
  numbers := .ratio
  parse s := by
    classical
    exact if h : ∃ f : String × String, Json.stringify .ratio (.obj (cursorFields f.1 f.2)) = s then
      some (.obj (cursorFields h.choose.1 h.choose.2)) else none
  toBase64url s := s
  fromBase64url s := s
  toISOString t := toString t.ms
  newDate value := by
    classical
    exact if h : ∃ t : Instant, value = some (.str (toString t.ms)) then some h.choose else none
  collate s := s

lemma plainHost_documented : plainHost.Documented := by
  constructor
  case parse_stringify =>
    intro t i
    have h : ∃ f : String × String, Json.stringify .ratio (.obj (cursorFields f.1 f.2)) =
      Json.stringify .ratio (.obj (cursorFields t i)) := ⟨(t, i), rfl⟩
    have hsame := Json.stringify_injective h.choose_spec
    exact (dif_pos h).trans (congrArg some hsame)
  case fromBase64url_toBase64url => exact fun s => rfl
  case toBase64url_ne_empty => exact fun s hs => hs
  case newDate_toISOString =>
    intro t
    have h : ∃ u : Instant, some (Json.str (toString t.ms)) = some (.str (toString u.ms)) := ⟨t, rfl⟩
    have hms : t.ms = h.choose.ms := toString_int_injective (Json.str.inj (Option.some.inj h.choose_spec))
    exact (dif_pos h).trans (congrArg some (Instant.ext hms.symm))
  case collate_injective => exact Function.injective_id

def epoch : Instant := ⟨0, by decide⟩

def twoSales : Table Sale.id :=
  (Table.empty.put ⟨"a", epoch, 1, 1, [1]⟩).put ⟨"b", epoch, 1, 1, []⟩

theorem bothSales_listedOnce : ∃ rows, Follows (Sale.list plainHost ⟨1, 1⟩) none [(twoSales, none)] rows ∧
      (rows.map Sale.id).count "a" = 1 := by
  have hpage : Sale.list plainHost ⟨1, 1⟩ twoSales none none = .ok _ := rfl
  have hfollows := Follows.last hpage rfl
  refine ⟨_, hfollows,
    (ordersAndSales_listedOnce plainHost ⟨1, 1⟩ plainHost_documented).2.once _ _ hfollows "a" epoch ?_⟩
  intro request hrequest
  obtain rfl := mem_singleton.mp hrequest
  exact ⟨⟨"a", epoch, 1, 1, [1]⟩, mem_rows.mpr (by decide), rfl, rfl, rfl⟩

end Mayatoko.Listing
