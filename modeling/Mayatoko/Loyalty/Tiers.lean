import Mayatoko.Core.Best
import Mayatoko.Core.JsValue
import Mayatoko.Loyalty.Points

/-!
# Tiers as programs configure them

A program keeps its tiers as a JSON value that nobody has checked. `resolveLoyaltyTier` takes the entries that
make sense, in a normal form; `loyaltyTierForCustomer` takes the entries as they are. They show the same tier
exactly if the entry that the one puts first has the code and the discount of the tier that the other puts
first.
-/

namespace Mayatoko.Loyalty.TierConfig

open Core

/-- What the service relies on: `localeCompare` is a consistent comparison. -/
structure Host where
  localeCompare : String → String → Ordering
  consistent : Std.TransCmp localeCompare
  toUpperCase : String → String

/-- A program with its tiers, `null` where there are none. -/
structure ProgramConfig where
  (id companyId : ℕ)
  isActive : Bool := true
  createdAt : ℕ
  tiers : Json

structure TierDb where
  customers : List Customer
  programs : List ProgramConfig
  accounts : List LoyaltyAccount

/-- `value ?? 0` -/
def orZero : JsValue → JsValue
  | .undefined => .json (.num 0)
  | .json .null => .json (.num 0)
  | v => v

/-! ### The tier that is shown -/

abbrev Shown := JsValue × JsNumber

def memberShown : Shown := (.json (.str "MEMBER"), .finite 0)

/-- `t.minPoints ?? 0` as a number. -/
def threshold : Json → Except String JsNumber
  | .null => .error "Cannot read properties of null (reading 'minPoints')"
  | t => (orZero (JsValue.member (.json t) "minPoints")).number

/-- The place among the thresholds that the points reach. The difference of two that are negative and infinite
is no number, which sorts as none. -/
def reachedPlace (lifetime : ℤ) : JsNumber → Option (WithBot ℚ)
  | .finite q => if q ≤ lifetime then some q else none
  | .infinity true => some ⊥
  | _ => none

def reachedEntry (lifetime : ℤ) (t : Json) : Except String (Option (WithBot ℚ × Json)) := do
  let x ← threshold t
  pure ((reachedPlace lifetime x).map fun place => (place, t))

/-- `Math.min(50, Math.max(0, x))` -/
def boundedDiscount : JsNumber → JsNumber
  | .finite q => .finite (min 50 (max 0 q))
  | .infinity negative => .finite (if negative then 0 else 50)
  | .nan => .nan

def presented (t : Json) : Except String Shown := do
  let code := match JsValue.member (.json t) "code" with
    | .undefined => .json (.str "MEMBER")
    | .json .null => .json (.str "MEMBER")
    | code => code
  let discountPct ← (orZero (JsValue.member (.json t) "discountPct")).number
  pure (code, boundedDiscount discountPct)

def shownTier (tiers : Json) (lifetime : ℤ) : Except String Shown := do
  let eligible ← tiers.items.filterMapM (reachedEntry lifetime)
  match (eligible.insertionSort fun a b => b.1 ≤ a.1).head? with
  | some tier => presented tier.2
  | none => pure memberShown

def activeProgram (db : TierDb) (companyId : ℕ) : Option ProgramConfig :=
  ((db.programs.filter fun p => p.companyId = companyId && p.isActive).insertionSort
    fun a b => a.createdAt ≤ b.createdAt).head?

def lifetimePoints (db : TierDb) (program : ProgramConfig) (customerId : ℕ) : ℤ :=
  ((db.accounts.find? fun a => a.programId = program.id && a.customerId = customerId).map
    LoyaltyAccount.lifetimePoints).getD 0

def loyaltyTierForCustomer (db : TierDb) (companyId customerId : ℕ) : Except String Shown :=
  if db.customers.any fun c => c.id = customerId && c.companyId = companyId then
    match activeProgram db companyId with
    | some program => shownTier program.tiers (lifetimePoints db program customerId)
    | none => .ok memberShown
  else .error "Pelanggan tidak ditemukan."

/-! ### The tier that is resolved -/

structure LoyaltyTierResult where
  code : String
  minPoints : ℤ
  discountPct : ℚ
  deriving DecidableEq

def normalizedTier (host : Host) : Json → Except String (Option LoyaltyTierResult)
  | .obj fields => do
    let code := match JsValue.member (.json (.obj fields)) "code" with
      | .json (.str code) => host.toUpperCase (trim code)
      | _ => ""
    let minPoints ← (orZero (JsValue.member (.json (.obj fields)) "minPoints")).number
    let discountPct ← (orZero (JsValue.member (.json (.obj fields)) "discountPct")).number
    pure (match minPoints, discountPct with
      | .finite minPoints, .finite discountPct =>
        if code ≠ "" ∧ 0 ≤ minPoints then some ⟨code, ⌊minPoints⌋, min 50 (max 0 discountPct)⟩ else none
      | _, _ => none)
  | _ => .ok none

/-- The order of the tiers: higher ones first, and of one height by code. -/
def comesBefore (host : Host) (a b : LoyaltyTierResult) : Prop :=
  b.minPoints < a.minPoints ∨ a.minPoints = b.minPoints ∧ host.localeCompare a.code b.code ≠ .gt

instance (host : Host) : DecidableRel (comesBefore host) := fun a b =>
  inferInstanceAs (Decidable (b.minPoints < a.minPoints ∨
    a.minPoints = b.minPoints ∧ host.localeCompare a.code b.code ≠ .gt))

def resolveLoyaltyTier (host : Host) (tiers : Json) (lifetimePoints : ℤ) : Except String LoyaltyTierResult := do
  let lifetime := max 0 lifetimePoints
  let normalized ← tiers.items.filterMapM (normalizedTier host)
  let tier := ((normalized.filter fun tier => tier.minPoints ≤ lifetime).insertionSort (comesBefore host)).head?
  pure (tier.getD ⟨"MEMBER", 0, 0⟩)

def customerTier (host : Host) (db : TierDb) (companyId : ℕ) (customerId : Option ℕ) :
    Except String (Option String) :=
  match customerId with
  | none => .ok none
  | some customerId =>
    if db.customers.any fun c => c.id = customerId && c.companyId = companyId then
      match activeProgram db companyId with
      | some program => do
        let tier ← resolveLoyaltyTier host program.tiers (lifetimePoints db program customerId)
        pure (some tier.code)
      | none => .ok (some "MEMBER")
    else .error "Pelanggan promo tidak ditemukan pada perusahaan ini."

/-! ### What the two look at -/

variable {host : Host} {items : List Json} {tiers : Json} {lifetime : ℤ}

/-- The first of the entries with the highest threshold that the points reach. -/
def Highest (items : List Json) (lifetime : ℤ) (t : Json) : Prop :=
  ∃ place, FirstBest (fun a b : WithBot ℚ × Json => b.1 ≤ a.1)
    (fun t => (reachedEntry lifetime t).toOption.join)
    items (place, t)

def reachedTier (host : Host) (lifetime : ℤ) (t : Json) : Option LoyaltyTierResult :=
  (normalizedTier host t).toOption.join.filter fun tier => tier.minPoints ≤ max 0 lifetime

/-- The first of the tiers that no other one comes before. -/
def Foremost (host : Host) (items : List Json) (lifetime : ℤ) (tier : LoyaltyTierResult) : Prop :=
  FirstBest (comesBefore host) (reachedTier host lifetime) items tier

def LoyaltyTierResult.shown (tier : LoyaltyTierResult) : Shown :=
  (.json (.str tier.code), .finite tier.discountPct)

def Agree : Except String Shown → Except String LoyaltyTierResult → Prop
  | .ok shown, .ok tier => shown = tier.shown
  | .error _, .error _ => True
  | _, _ => False

def Readable (host : Host) (items : List Json) : Prop :=
  ∀ t ∈ items, (∃ x, threshold t = .ok x) ∧ ∃ tier, normalizedTier host t = .ok tier

/-- An entry that makes `resolveLoyaltyTier` fail, and one that makes the other fail. -/
def FailAlike (host : Host) (items : List Json) (lifetime : ℤ) : Prop :=
  (∃ t ∈ items, ∃ e, normalizedTier host t = .error e) ∧
    ((∃ t ∈ items, ∃ e, threshold t = .error e) ∨ ∃ t e, Highest items lifetime t ∧ presented t = .error e)

/-- The highest entry presents the foremost tier, and where there is no such entry or no such tier, the other is
a member without a discount. -/
structure SameTier (host : Host) (items : List Json) (lifetime : ℤ) : Prop where
  both : ∀ t tier, Highest items lifetime t → Foremost host items lifetime tier → presented t = .ok tier.shown
  entry : ∀ t, Highest items lifetime t → (∀ tier, ¬ Foremost host items lifetime tier) →
    presented t = .ok memberShown
  tier : ∀ tier, Foremost host items lifetime tier → (∀ t, ¬ Highest items lifetime t) →
    tier.shown = memberShown

instance : Std.Total fun a b : WithBot ℚ × Json => b.1 ≤ a.1 := ⟨fun a b => le_total b.1 a.1⟩

instance : IsTrans (WithBot ℚ × Json) fun a b => b.1 ≤ a.1 := ⟨fun _ _ _ hab hbc => hbc.trans hab⟩

instance : Std.Total (comesBefore host) where
  total a b := by
    have := host.consistent
    obtain hlt | heq | hgt := lt_trichotomy a.minPoints b.minPoints
    · exact .inr (Or.inl hlt)
    · by_cases hcompare : host.localeCompare a.code b.code = .gt
      · refine .inr (Or.inr ⟨heq.symm, ?_⟩)
        rw [Std.OrientedCmp.lt_of_gt hcompare]
        decide
      · exact .inl (Or.inr ⟨heq, hcompare⟩)
    · exact .inl (Or.inl hgt)

instance : IsTrans LoyaltyTierResult (comesBefore host) where
  trans a b c hab hbc := by
    have := host.consistent
    obtain hab | ⟨hab, hcode⟩ := hab
    · obtain hbc | ⟨hbc, _⟩ := hbc
      · exact .inl (hbc.trans hab)
      · exact .inl (hbc ▸ hab)
    · obtain hbc | ⟨hbc, hcode'⟩ := hbc
      · exact .inl (hab.symm ▸ hbc)
      · refine .inr ⟨hab.trans hbc, Ordering.ne_gt_iff_isLE.mpr ?_⟩
        exact Std.TransCmp.isLE_trans (Ordering.ne_gt_iff_isLE.mp hcode) (Ordering.ne_gt_iff_isLE.mp hcode')

variable {t : Json}

lemma highest_iff : Highest items lifetime t ↔
    (((items.filterMap fun t => (reachedEntry lifetime t).toOption.join).insertionSort
      fun a b => b.1 ≤ a.1).head?).map Prod.snd = some t := by
  simp only [Highest, ← head_insertionSort_iff, Option.map_eq_some_iff, Prod.exists, exists_eq_right]

variable {tier : LoyaltyTierResult}

lemma foremost_iff : Foremost host items lifetime tier ↔
    ((items.filterMap (reachedTier host lifetime)).insertionSort (comesBefore host)).head? = some tier :=
  head_insertionSort_iff.symm

lemma exists_error {α β : Type} {f : α → Except String β} {l : List α} :
    (¬ ∀ a ∈ l, ∃ b, f a = .ok b) ↔ ∃ a ∈ l, ∃ e, f a = .error e := by
  simp only [not_forall, not_exists]
  constructor
  · rintro ⟨a, ha, hnot⟩
    cases hf : f a with
    | ok b => exact absurd hf (hnot b)
    | error e => exact ⟨a, ha, e, hf⟩
  · rintro ⟨a, ha, e, he⟩
    refine ⟨a, ha, fun b hb => ?_⟩
    rw [he] at hb
    cases hb

lemma filterMapM_error {α β : Type} {f : α → Except String (Option β)} {l : List α}
    (h : ∃ a ∈ l, ∃ e, f a = .error e) : ∃ e, l.filterMapM f = .error e := by
  cases hl : l.filterMapM f with
  | error e => exact ⟨e, rfl⟩
  | ok bs => exact absurd (filterMapM_eq_ok.mp hl).1 (exists_error.mpr h)

lemma reachedEntry_ok : (∃ o, reachedEntry lifetime t = .ok o) ↔ ∃ x, threshold t = .ok x := by
  simp only [reachedEntry, bind_eq_ok, pure_eq_ok]
  constructor
  · rintro ⟨_, x, hx, _⟩
    exact ⟨x, hx⟩
  · rintro ⟨x, hx⟩
    exact ⟨_, x, hx, rfl⟩

/-! ### What the two return -/

lemma shownTier_eq (lifetime : ℤ) (h : ∀ t ∈ tiers.items, ∃ x, threshold t = .ok x) :
    (∃ t, Highest tiers.items lifetime t ∧ shownTier tiers lifetime = presented t) ∨
      (∀ t, ¬ Highest tiers.items lifetime t) ∧ shownTier tiers lifetime = .ok memberShown := by
  have hread : tiers.items.filterMapM (reachedEntry lifetime) =
      .ok (tiers.items.filterMap fun t => (reachedEntry lifetime t).toOption.join) :=
    filterMapM_eq_ok.mpr ⟨fun t ht => reachedEntry_ok.mpr (h t ht), rfl⟩
  have hshown : shownTier tiers lifetime =
      match ((tiers.items.filterMap fun t => (reachedEntry lifetime t).toOption.join).insertionSort
        fun a b => b.1 ≤ a.1).head? with
      | some tier => presented tier.2
      | none => .ok memberShown := by
    rw [shownTier, hread]
    rfl
  rw [hshown]
  simp only [highest_iff]
  cases ((tiers.items.filterMap fun t => (reachedEntry lifetime t).toOption.join).insertionSort
    fun a b => b.1 ≤ a.1).head? with
  | some tier => exact .inl ⟨tier.2, rfl, rfl⟩
  | none => exact .inr ⟨fun t h => absurd h (Option.some_ne_none t).symm, rfl⟩

lemma shownTier_error (lifetime : ℤ) (h : ∃ t ∈ tiers.items, ∃ e, threshold t = .error e) :
    ∃ e, shownTier tiers lifetime = .error e := by
  obtain ⟨t, ht, e, he⟩ := h
  have hentry : reachedEntry lifetime t = .error e := by
    rw [reachedEntry, he]
    rfl
  obtain ⟨e', hread⟩ := filterMapM_error ⟨t, ht, e, hentry⟩
  refine ⟨e', ?_⟩
  rw [shownTier, hread]
  rfl

lemma resolveLoyaltyTier_eq (lifetime : ℤ) (h : ∀ t ∈ tiers.items, ∃ tier, normalizedTier host t = .ok tier) :
    (∃ tier, Foremost host tiers.items lifetime tier ∧ resolveLoyaltyTier host tiers lifetime = .ok tier) ∨
      (∀ tier, ¬ Foremost host tiers.items lifetime tier) ∧
        resolveLoyaltyTier host tiers lifetime = .ok ⟨"MEMBER", 0, 0⟩ := by
  have hread : tiers.items.filterMapM (normalizedTier host) =
      .ok (tiers.items.filterMap fun t => (normalizedTier host t).toOption.join) :=
    filterMapM_eq_ok.mpr ⟨h, rfl⟩
  have hresolved : resolveLoyaltyTier host tiers lifetime =
      .ok ((((tiers.items.filterMap (reachedTier host lifetime)).insertionSort (comesBefore host)).head?).getD
        ⟨"MEMBER", 0, 0⟩) := by
    rw [resolveLoyaltyTier, hread]
    change Except.ok _ = Except.ok _
    rw [List.filter_filterMap]
    rfl
  rw [hresolved]
  simp only [foremost_iff]
  cases ((tiers.items.filterMap (reachedTier host lifetime)).insertionSort (comesBefore host)).head? with
  | some tier => exact .inl ⟨tier, rfl, rfl⟩
  | none => exact .inr ⟨fun tier h => absurd h (Option.some_ne_none tier).symm, rfl⟩

lemma resolveLoyaltyTier_error (lifetime : ℤ) (h : ∃ t ∈ tiers.items, ∃ e, normalizedTier host t = .error e) :
    ∃ e, resolveLoyaltyTier host tiers lifetime = .error e := by
  obtain ⟨e, hread⟩ := filterMapM_error h
  refine ⟨e, ?_⟩
  rw [resolveLoyaltyTier, hread]
  rfl

lemma Highest.eq {t' : Json} (h : Highest items lifetime t) (h' : Highest items lifetime t') : t = t' :=
  mem_unique (highest_iff.mp h) (highest_iff.mp h')

variable {tier' : LoyaltyTierResult}

lemma Foremost.eq (h : Foremost host items lifetime tier)
    (h' : Foremost host items lifetime tier') : tier = tier' :=
  mem_unique (foremost_iff.mp h) (foremost_iff.mp h')

lemma agree_iff_sameTier (hread : ∀ t ∈ tiers.items, ∃ x, threshold t = .ok x)
    (hresolved : ∀ t ∈ tiers.items, ∃ tier, normalizedTier host t = .ok tier) :
    Agree (shownTier tiers lifetime) (resolveLoyaltyTier host tiers lifetime) ↔
      SameTier host tiers.items lifetime := by
  have hagree (shown : Except String Shown) (tier : LoyaltyTierResult) :
      Agree shown (.ok tier) ↔ shown = .ok tier.shown := by
    cases shown with
    | ok shown => exact ⟨fun h => congrArg Except.ok h, fun h => Except.ok.inj h⟩
    | error e =>
      refine iff_of_false id fun h => ?_
      cases h
  obtain ⟨t, ht, hshown⟩ | ⟨hnone, hshown⟩ := shownTier_eq lifetime hread
  · obtain ⟨tier, htier, hresolve⟩ | ⟨hnone, hresolve⟩ :=
      resolveLoyaltyTier_eq lifetime hresolved
    · rw [hshown, hresolve, hagree]
      refine ⟨fun h => ⟨fun t' tier' ht' htier' => ?_, fun _ _ h => absurd htier (h tier),
        fun _ _ h => absurd ht (h t)⟩, fun h => h.both t tier ht htier⟩
      rw [ht'.eq ht, htier'.eq htier, h]
    · rw [hshown, hresolve, hagree]
      refine ⟨fun h => ⟨fun _ tier _ htier => absurd htier (hnone tier), fun t' ht' _ => ?_,
        fun tier htier => absurd htier (hnone tier)⟩, fun h => h.entry t ht hnone⟩
      rw [ht'.eq ht, h]
      rfl
  · obtain ⟨tier, htier, hresolve⟩ | ⟨hnone', hresolve⟩ :=
      resolveLoyaltyTier_eq lifetime hresolved
    · rw [hshown, hresolve, hagree]
      refine ⟨fun h => ⟨fun t' _ ht' => absurd ht' (hnone t'), fun t' ht' => absurd ht' (hnone t'),
        fun tier' htier' _ => ?_⟩, fun h => ?_⟩
      · rw [htier'.eq htier]
        exact (Except.ok.inj h).symm
      · rw [h.tier tier htier hnone]
    · rw [hshown, hresolve, hagree]
      exact iff_of_true rfl ⟨fun t' _ ht' => absurd ht' (hnone t'), fun t' ht' => absurd ht' (hnone t'),
        fun tier htier => absurd htier (hnone' tier)⟩

lemma agree_iff : Agree (shownTier tiers lifetime) (resolveLoyaltyTier host tiers lifetime) ↔
    FailAlike host tiers.items lifetime ∨ Readable host tiers.items ∧ SameTier host tiers.items lifetime := by
  by_cases hresolved : ∀ t ∈ tiers.items, ∃ tier, normalizedTier host t = .ok tier
  · have halike : ¬ FailAlike host tiers.items lifetime := fun h => exists_error.mpr h.1 hresolved
    rw [or_iff_right halike]
    by_cases hread : ∀ t ∈ tiers.items, ∃ x, threshold t = .ok x
    · have hreadable : Readable host tiers.items := fun t ht => ⟨hread t ht, hresolved t ht⟩
      rw [and_iff_right hreadable]
      exact agree_iff_sameTier hread hresolved
    · obtain ⟨e, hshown⟩ := shownTier_error lifetime (exists_error.mp hread)
      refine iff_of_false (fun h => ?_) fun h => hread fun t ht => (h.1 t ht).1
      obtain ⟨tier, _, hresolve⟩ | ⟨_, hresolve⟩ := resolveLoyaltyTier_eq lifetime hresolved
      all_goals
        rw [hshown, hresolve] at h
        exact h
  · have herror := exists_error.mp hresolved
    obtain ⟨e, hresolve⟩ := resolveLoyaltyTier_error lifetime herror
    have hreadable : ¬ Readable host tiers.items := fun h => hresolved fun t ht => (h t ht).2
    rw [or_iff_left fun h => hreadable h.1, FailAlike, and_iff_right herror]
    by_cases hread : ∀ t ∈ tiers.items, ∃ x, threshold t = .ok x
    · rw [or_iff_right fun h => exists_error.mpr h hread]
      obtain ⟨t, ht, hshown⟩ | ⟨hnone, hshown⟩ := shownTier_eq lifetime hread
      · rw [hshown, hresolve]
        constructor
        · intro h
          cases hpresented : presented t with
          | ok shown =>
            rw [hpresented] at h
            exact absurd h id
          | error e' => exact ⟨t, e', ht, hpresented⟩
        · rintro ⟨t', e', ht', hpresented⟩
          rw [ht.eq ht', hpresented]
          trivial
      · rw [hshown, hresolve]
        exact iff_of_false id fun ⟨t, _, ht, _⟩ => hnone t ht
    · obtain ⟨e', hshown⟩ := shownTier_error lifetime (exists_error.mp hread)
      rw [hshown, hresolve]
      exact iff_of_true trivial (Or.inl (exists_error.mp hread))

/-! ### Entries in normal form -/

structure Normal (host : Host) (t : Json) (tier : LoyaltyTierResult) : Prop where
  threshold : threshold t = .ok (.finite tier.minPoints)
  normalized : normalizedTier host t = .ok (some tier)
  presented : presented t = .ok tier.shown

lemma Normal.reachedEntry_iff (h : Normal host t tier)
    {x : WithBot ℚ × Json} : (reachedEntry lifetime t).toOption.join = some x ↔
      tier.minPoints ≤ lifetime ∧ x = (((tier.minPoints : ℚ) : WithBot ℚ), t) := by
  rw [reachedEntry, h.threshold]
  change (if (tier.minPoints : ℚ) ≤ lifetime then some ((tier.minPoints : ℚ) : WithBot ℚ) else none).map
    (fun place => (place, t)) = some x ↔ _
  split_ifs with hreached
  · rw [Option.map_some, Option.some.injEq, and_iff_right (Int.cast_le.mp hreached), eq_comm]
  · exact iff_of_false (Option.some_ne_none x).symm fun hx => hreached (Int.cast_le.mpr hx.1)

lemma Normal.reachedTier_iff (h : Normal host t tier)
    (hlifetime : 0 ≤ lifetime) : reachedTier host lifetime t = some tier' ↔
      tier.minPoints ≤ lifetime ∧ tier' = tier := by
  rw [reachedTier, h.normalized, max_eq_right hlifetime]
  change (some tier).filter _ = some tier' ↔ _
  rw [Option.filter_eq_some_iff, decide_eq_true_eq, Option.some.injEq]
  constructor
  · rintro ⟨rfl, hreached⟩
    exact ⟨hreached, rfl⟩
  · rintro ⟨hreached, rfl⟩
    exact ⟨rfl, hreached⟩

variable {tierOf : Json → LoyaltyTierResult}

lemma Highest.foremost
    (hnormal : ∀ t ∈ items, Normal host t (tierOf t)) (hlifetime : 0 ≤ lifetime)
    (hcodes : items.Pairwise fun t t' => (tierOf t).minPoints = (tierOf t').minPoints →
      host.localeCompare (tierOf t).code (tierOf t').code ≠ .gt)
    (h : Highest items lifetime t) : Foremost host items lifetime (tierOf t) := by
  obtain ⟨place, before, b, after, rfl, hb, hbefore, hafter⟩ := h
  have hbn := hnormal b (mem_append_right _ mem_cons_self)
  obtain ⟨hreached, heq⟩ := hbn.reachedEntry_iff.mp hb
  cases heq
  refine ⟨before, t, after, rfl, (hbn.reachedTier_iff hlifetime).mpr ⟨hreached, rfl⟩,
    fun c hc tier htier => ?_, fun c hc tier htier => ?_⟩
  · have hcn := hnormal c (List.mem_append_left _ hc)
    obtain ⟨hcreached, rfl⟩ := (hcn.reachedTier_iff hlifetime).mp htier
    have hlower : (tierOf c).minPoints < (tierOf t).minPoints := not_le.mp fun hle =>
      hbefore c hc _ (hcn.reachedEntry_iff.mpr ⟨hcreached, rfl⟩) (WithBot.coe_le_coe.mpr (Int.cast_le.mpr hle))
    rintro (hlt | ⟨heq, _⟩)
    · exact absurd hlt hlower.not_gt
    · exact absurd heq hlower.ne
  · have hcn := hnormal c (mem_append_right _ (mem_cons_of_mem _ hc))
    obtain ⟨hcreached, rfl⟩ := (hcn.reachedTier_iff hlifetime).mp htier
    have hlower : (tierOf c).minPoints ≤ (tierOf t).minPoints := Int.cast_le.mp (WithBot.coe_le_coe.mp
      (hafter c hc _ (hcn.reachedEntry_iff.mpr ⟨hcreached, rfl⟩)))
    have hcode := List.rel_of_pairwise_cons (List.pairwise_append.mp hcodes).2.1 hc
    obtain hlt | heq := hlower.lt_or_eq
    · exact .inl hlt
    · exact .inr ⟨heq.symm, hcode heq.symm⟩

lemma Foremost.exists_highest
    (hnormal : ∀ t ∈ items, Normal host t (tierOf t)) (hlifetime : 0 ≤ lifetime)
    (h : Foremost host items lifetime tier) : ∃ t, Highest items lifetime t := by
  obtain ⟨t, ht, hreached⟩ := FirstBest.mem h
  have hmem : ((((tierOf t).minPoints : ℚ) : WithBot ℚ), t) ∈
      (items.filterMap fun t => (reachedEntry lifetime t).toOption.join).insertionSort
        (fun a b : WithBot ℚ × Json => b.1 ≤ a.1) := by
    rw [List.mem_insertionSort]
    refine List.mem_filterMap.mpr ⟨t, ht, (hnormal t ht).reachedEntry_iff.mpr ⟨?_, rfl⟩⟩
    exact ((hnormal t ht).reachedTier_iff hlifetime |>.mp hreached).1
  obtain ⟨x, hx⟩ := Option.isSome_iff_exists.mp (List.isSome_head?.mpr (List.ne_nil_of_mem hmem))
  exact ⟨x.2, highest_iff.mpr (by rw [hx, Option.map_some])⟩

lemma sameTier_of_normal (tierOf : Json → LoyaltyTierResult) (hlifetime : 0 ≤ lifetime)
    (hnormal : ∀ t ∈ items, Normal host t (tierOf t))
    (hcodes : items.Pairwise fun t t' => (tierOf t).minPoints = (tierOf t').minPoints →
      host.localeCompare (tierOf t).code (tierOf t').code ≠ .gt) :
    Readable host items ∧ SameTier host items lifetime := by
  refine ⟨fun t ht => ⟨⟨_, (hnormal t ht).threshold⟩, _, (hnormal t ht).normalized⟩, fun t tier ht htier => ?_,
    fun t ht hnone => ?_, fun tier htier hnone => ?_⟩
  · have hforemost := Highest.foremost hnormal hlifetime hcodes ht
    rw [htier.eq hforemost]
    obtain ⟨place, hfirst⟩ := ht
    obtain ⟨t', ht', hreached⟩ := hfirst.mem
    have heq := ((hnormal t' ht').reachedEntry_iff.mp hreached).2
    cases heq
    exact (hnormal t ht').presented
  · exact absurd (Highest.foremost hnormal hlifetime hcodes ht) (hnone _)
  · obtain ⟨t, ht⟩ := Foremost.exists_highest hnormal hlifetime htier
    exact absurd ht (hnone t)

/-! ### Customers -/

def ShowsResolved (host : Host) (db : TierDb) (companyId customerId : ℕ) (program : ProgramConfig)
    (account : LoyaltyAccount) : Prop :=
  Agree (loyaltyTierForCustomer db companyId customerId)
      (resolveLoyaltyTier host program.tiers account.lifetimePoints) ∧
    customerTier host db companyId (some customerId) =
      (resolveLoyaltyTier host program.tiers account.lifetimePoints).map fun tier => some tier.code

theorem showsResolved_iff {db : TierDb} {companyId customerId : ℕ} {program : ProgramConfig}
    {account : LoyaltyAccount}
    (hcustomer : (db.customers.any fun c => c.id = customerId && c.companyId = companyId) = true)
    (hprogram : activeProgram db companyId = some program)
    (haccount : (db.accounts.find? fun a => a.programId = program.id && a.customerId = customerId) =
      some account) :
    ShowsResolved host db companyId customerId program account ↔
      FailAlike host program.tiers.items account.lifetimePoints ∨
        Readable host program.tiers.items ∧ SameTier host program.tiers.items account.lifetimePoints := by
  have hlifetime : lifetimePoints db program customerId = account.lifetimePoints := by
    rw [lifetimePoints, haccount]
    rfl
  have hshown : loyaltyTierForCustomer db companyId customerId =
      shownTier program.tiers account.lifetimePoints := by
    rw [loyaltyTierForCustomer, if_pos hcustomer, hprogram, ← hlifetime]
  have htier : customerTier host db companyId (some customerId) =
      (resolveLoyaltyTier host program.tiers account.lifetimePoints).map fun tier => some tier.code := by
    simp only [customerTier]
    rw [if_pos hcustomer, hprogram]
    dsimp only
    rw [hlifetime]
    cases resolveLoyaltyTier host program.tiers account.lifetimePoints
    all_goals rfl
  rw [ShowsResolved, and_iff_left htier, hshown, agree_iff]

def plainHost : Host where
  localeCompare := compare
  consistent := inferInstance
  toUpperCase code := String.ofList (code.toList.map Char.toUpper)

def tierEntry (code : String) (minPoints discountPct : ℚ) : Json :=
  .obj [("code", .str code), ("minPoints", .num minPoints), ("discountPct", .num discountPct)]

def tierProgram (tiers : Json) : ProgramConfig where
  id := 1
  companyId := 1
  createdAt := 0
  tiers

def tierAccount : LoyaltyAccount where
  programId := 1
  customerId := 7
  lifetimePoints := 150

def tierDb (tiers : Json) : TierDb where
  customers := [⟨7, 1⟩]
  programs := [tierProgram tiers]
  accounts := [tierAccount]

theorem showsResolved_gold :
    ShowsResolved plainHost (tierDb (.arr [tierEntry "GOLD" 100 5])) 1 7
      (tierProgram (.arr [tierEntry "GOLD" 100 5])) tierAccount := by
  refine (showsResolved_iff (by decide) rfl (by decide)).mpr (Or.inr ?_)
  have hnormal : Normal plainHost (tierEntry "GOLD" 100 5) ⟨"GOLD", 100, 5⟩ :=
    ⟨rfl, by decide +kernel, rfl⟩
  exact sameTier_of_normal (fun _ => ⟨"GOLD", 100, 5⟩) (by decide) (List.forall_mem_singleton.mpr hnormal)
    (List.pairwise_singleton _ _)

theorem not_showsResolved_lowerCase :
    ¬ ShowsResolved plainHost (tierDb (.arr [tierEntry "gold" 100 5])) 1 7
      (tierProgram (.arr [tierEntry "gold" 100 5])) tierAccount := by
  have hshown : loyaltyTierForCustomer (tierDb (.arr [tierEntry "gold" 100 5])) 1 7 =
      .ok (.json (.str "gold"), .finite 5) := by
    rfl
  have hresolved : resolveLoyaltyTier plainHost (.arr [tierEntry "gold" 100 5]) 150 = .ok ⟨"GOLD", 100, 5⟩ := by
    decide +kernel
  rintro ⟨hagree, _⟩
  change Agree (loyaltyTierForCustomer (tierDb (.arr [tierEntry "gold" 100 5])) 1 7)
    (resolveLoyaltyTier plainHost (.arr [tierEntry "gold" 100 5]) 150) at hagree
  rw [hshown, hresolved] at hagree
  have hcode : (JsValue.json (.str "gold")) = .json (.str "GOLD") := congrArg Prod.fst hagree
  injection hcode with hcode
  injection hcode with hcode
  revert hcode
  decide

end Mayatoko.Loyalty.TierConfig
