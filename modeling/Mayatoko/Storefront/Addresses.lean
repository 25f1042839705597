import Mayatoko.Common.Failure
import Mayatoko.Core.Store

/-!
# The addresses of a customer

`createAddress`, `updateAddress` and `removeAddress` of `StorefrontCustomerService`. The customer is the one
that the session stands for; texts are taken as already trimmed, and the id of a new address is the one that is
drawn for it.

A customer with an active address should have exactly one active default, and the address of the customer
should be its text whenever it changes. The text always follows. That there is one default is kept exactly by
the updates that neither leave the last active address without the flag, nor give it to an address that is not
active, nor bring back an address that has kept it while it was not active.
-/

namespace Mayatoko.Storefront

open Core

structure Customer where
  id : ℕ
  address : Option String := none

structure CustomerAddress where
  (id customerId : ℕ)
  label : String := "Rumah"
  (recipientName phone addressLine : String)
  district : Option String := none
  city : Option String := none
  province : Option String := none
  postalCode : Option String := none
  notes : Option String := none
  latitude : Option ℚ := none
  longitude : Option ℚ := none
  isDefault : Bool := false
  isActive : Bool := true
  updatedAt : ℕ
  deriving DecidableEq

structure AddressDb where
  customers : Table Customer.id
  addresses : Table CustomerAddress.id

abbrev AddressTx := Tx AddressDb Failure

namespace AddressDb

def customer : TableOf AddressDb Customer.id := ⟨customers, fun db t => { db with customers := t }⟩

def customerAddress : TableOf AddressDb CustomerAddress.id :=
  ⟨addresses, fun db t => { db with addresses := t }⟩

end AddressDb

open AddressDb

/-- The parts of an address that are not empty, separated by commas. -/
def formattedAddress (row : CustomerAddress) : String :=
  ", ".intercalate ([some row.addressLine, row.district, row.city, row.province, row.postalCode].filterMap
    (·.filter (· ≠ "")))

/-- A text that is empty is none. -/
def orNull (text : Option String) : Option String := text.filter (· ≠ "")

def showAddress (customerId : ℕ) (row : CustomerAddress) : AddressTx Unit := do
  let _ ← customer.update customerId (fun c => { c with address := some (formattedAddress row) }) .recordNotFound

structure CreateCustomerAddressDto where
  (label recipientName phone addressLine : String)
  district : Option String := none
  city : Option String := none
  province : Option String := none
  postalCode : Option String := none
  notes : Option String := none
  latitude : Option ℚ := none
  longitude : Option ℚ := none
  isDefault : Option Bool := none

def CreateCustomerAddressDto.row (dto : CreateCustomerAddressDto) (id customerId now : ℕ) (isDefault : Bool) :
    CustomerAddress where
  id := id
  customerId := customerId
  label := dto.label
  recipientName := dto.recipientName
  phone := dto.phone
  addressLine := dto.addressLine
  district := orNull dto.district
  city := orNull dto.city
  province := orNull dto.province
  postalCode := orNull dto.postalCode
  notes := orNull dto.notes
  latitude := dto.latitude
  longitude := dto.longitude
  isDefault := isDefault
  updatedAt := now

def createAddress (customerId id : ℕ) (dto : CreateCustomerAddressDto) (now : ℕ) : AddressTx Unit := do
  let db ← get
  let count := (db.addresses.findMany fun r => r.customerId = customerId && r.isActive).length
  let makeDefault := dto.isDefault.getD false || count = 0
  let _ ← customerAddress.updateMany (fun r => makeDefault && r.customerId = customerId && r.isDefault)
    fun r => { r with isDefault := false, updatedAt := now }
  customerAddress.create (dto.row id customerId now makeDefault) .uniqueViolation
  if makeDefault = true then showAddress customerId (dto.row id customerId now makeDefault) else pure ()

structure UpdateCustomerAddressDto where
  label : Option String := none
  recipientName : Option String := none
  phone : Option String := none
  addressLine : Option String := none
  district : Option String := none
  city : Option String := none
  province : Option String := none
  postalCode : Option String := none
  notes : Option String := none
  latitude : Option ℚ := none
  longitude : Option ℚ := none
  isDefault : Option Bool := none
  isActive : Option Bool := none

/-- A text that is given replaces the old one, and an empty text is none. -/
def patchText (text old : Option String) : Option String := if text.isSome then orNull text else old

def UpdateCustomerAddressDto.patch (dto : UpdateCustomerAddressDto) (now : ℕ) (r : CustomerAddress) :
    CustomerAddress :=
  { r with
    label := dto.label.getD r.label
    recipientName := dto.recipientName.getD r.recipientName
    phone := dto.phone.getD r.phone
    addressLine := dto.addressLine.getD r.addressLine
    district := patchText dto.district r.district
    city := patchText dto.city r.city
    province := patchText dto.province r.province
    postalCode := patchText dto.postalCode r.postalCode
    notes := patchText dto.notes r.notes
    latitude := dto.latitude.or r.latitude
    longitude := dto.longitude.or r.longitude
    isDefault := dto.isDefault.getD r.isDefault
    isActive := dto.isActive.getD r.isActive
    updatedAt := now }

/-- The active address of the customer that was updated last, apart from this one. -/
def findReplacement (db : AddressDb) (customerId id : ℕ) : Option CustomerAddress :=
  db.addresses.findFirst (fun r => r.customerId = customerId && r.isActive && r.id ≠ id)
    fun a b => b.updatedAt ≤ a.updatedAt

/-- The replacement becomes the default, if there is one. -/
def replaceDefault (customerId id now : ℕ) : AddressTx Unit := do
  let db ← get
  match findReplacement db customerId id with
  | none => pure ()
  | some replacement => do
    let _ ← customerAddress.update replacement.id (fun r => { r with isDefault := true, updatedAt := now })
      .recordNotFound
    showAddress customerId replacement

def updateAddress (customerId id : ℕ) (dto : UpdateCustomerAddressDto) (now : ℕ) : AddressTx Unit := do
  let db ← get
  let current ← orThrow ((db.addresses.find? id).filter fun r => r.customerId = customerId)
    (.notFound "Alamat pelanggan tidak ditemukan.")
  let _ ← customerAddress.updateMany
    (fun r => dto.isDefault = some true && r.customerId = customerId && r.id ≠ id && r.isDefault)
    fun r => { r with isDefault := false, updatedAt := now }
  let row ← customerAddress.update id (dto.patch now) .recordNotFound
  if row.isDefault = true ∧ row.isActive = true then showAddress customerId row else pure ()
  if (row.isActive = false ∨ dto.isDefault = some false) ∧ current.isDefault = true then
    replaceDefault customerId id now
  else pure ()

def removeAddress (customerId id now : ℕ) : AddressTx Unit :=
  updateAddress customerId id { isActive := some false } now

open TableOf

/-! ### One chosen member -/

section Chosen

variable {κ : Type*} {member chosen : κ → Prop} {a : κ} {p : Prop}

def OneChosen (member chosen : κ → Prop) : Prop := (∃ k, member k) → ∃! k, chosen k

lemma oneChosen_of_member (h : ∃ k, member k) : OneChosen member chosen ↔ ∃! k, chosen k :=
  ⟨fun hone => hone h, fun hone _ => hone⟩

lemma oneChosen_alone (hmember : ∀ k, member k → k = a) (hchosen : ∀ k, chosen k ↔ k = a ∧ p) :
    OneChosen member chosen ↔ (member a → p) := by
  constructor
  · intro hone ha
    obtain ⟨k, hk, _⟩ := hone ⟨a, ha⟩
    exact ((hchosen k).mp hk).2
  · rintro hp ⟨k, hk⟩
    obtain rfl := hmember k hk
    exact ⟨k, (hchosen k).mpr ⟨rfl, hp hk⟩, fun x hx => ((hchosen x).mp hx).1⟩

lemma OneChosen.congr {member' chosen' : κ → Prop} (h : OneChosen member chosen)
    (hmember : ∀ k, member' k ↔ member k) (hchosen : ∀ k, chosen' k ↔ chosen k) :
    OneChosen member' chosen' := by
  rintro ⟨k, hk⟩
  obtain ⟨d, hd, huniq⟩ := h ⟨k, (hmember k).mp hk⟩
  exact ⟨d, (hchosen d).mpr hd, fun x hx => huniq x ((hchosen x).mp hx)⟩

lemma existsUnique_with : (∃! k, k = a ∨ k ≠ a ∧ chosen k) ↔ ∀ k, chosen k → k = a := by
  constructor
  · intro hone k hk
    by_contra hne
    exact hne (hone.unique (Or.inr ⟨hne, hk⟩) (Or.inl rfl))
  · intro hnone
    refine ⟨a, .inl rfl, ?_⟩
    rintro k (hk | ⟨_, hk⟩)
    · exact hk
    · exact hnone k hk

end Chosen

/-! ### Active and default addresses -/

def ActiveAt (t : Table CustomerAddress.id) (customerId k : ℕ) : Prop :=
  ∃ r ∈ t, r.id = k ∧ r.customerId = customerId ∧ r.isActive = true

def DefaultAt (t : Table CustomerAddress.id) (customerId k : ℕ) : Prop :=
  ∃ r ∈ t, r.id = k ∧ r.customerId = customerId ∧ r.isActive = true ∧ r.isDefault = true

variable {t : Table CustomerAddress.id} {r : CustomerAddress} {c k customerId id now : ℕ}
  {db db' : AddressDb}

lemma DefaultAt.active (h : DefaultAt t c k) : ActiveAt t c k := by
  obtain ⟨r, hr, hk, hc, hactive, _⟩ := h
  exact ⟨r, hr, hk, hc, hactive⟩

def OneDefault (db : AddressDb) : Prop :=
  ∀ c, OneChosen (ActiveAt db.addresses c) (DefaultAt db.addresses c)

/-- Whenever another address becomes the default, the address of the customer is its text. -/
def AddressFollows (db db' : AddressDb) : Prop :=
  ∀ c k, DefaultAt db'.addresses c k → ¬ DefaultAt db.addresses c k → ∃ row ∈ db'.addresses, row.id = k ∧
    (db'.customers.find? c).bind Customer.address = some (formattedAddress row)

lemma activeAt_put : ActiveAt (t.put r) c k ↔
    k = r.id ∧ r.customerId = c ∧ r.isActive = true ∨ k ≠ r.id ∧ ActiveAt t c k := by
  constructor
  · rintro ⟨x, hx, rfl, hc, hactive⟩
    obtain rfl | ⟨hold, hne⟩ := mem_put.mp hx
    · exact .inl ⟨rfl, hc, hactive⟩
    · exact .inr ⟨hne, x, hold, rfl, hc, hactive⟩
  · rintro (⟨rfl, hc, hactive⟩ | ⟨hne, x, hx, rfl, hc, hactive⟩)
    · exact ⟨r, mem_put_self _ _, rfl, hc, hactive⟩
    · exact ⟨x, mem_put.mpr (Or.inr ⟨hx, hne⟩), rfl, hc, hactive⟩

lemma defaultAt_put : DefaultAt (t.put r) c k ↔
    k = r.id ∧ r.customerId = c ∧ r.isActive = true ∧ r.isDefault = true ∨ k ≠ r.id ∧ DefaultAt t c k := by
  constructor
  · rintro ⟨x, hx, rfl, hc, hactive, hdefault⟩
    obtain rfl | ⟨hold, hne⟩ := mem_put.mp hx
    · exact .inl ⟨rfl, hc, hactive, hdefault⟩
    · exact .inr ⟨hne, x, hold, rfl, hc, hactive, hdefault⟩
  · rintro (⟨rfl, hc, hactive, hdefault⟩ | ⟨hne, x, hx, rfl, hc, hactive, hdefault⟩)
    · exact ⟨r, mem_put_self _ _, rfl, hc, hactive, hdefault⟩
    · exact ⟨x, mem_put.mpr (Or.inr ⟨hx, hne⟩), rfl, hc, hactive, hdefault⟩

lemma id_unflagged (now : ℕ) (r : CustomerAddress) :
    ({ r with isDefault := false, updatedAt := now } : CustomerAddress).id = r.id := rfl

def cleared (p : CustomerAddress → Bool) (now : ℕ) (t : Table CustomerAddress.id) : Table CustomerAddress.id :=
  (t.updateMany p (fun r => { r with isDefault := false, updatedAt := now }) (id_unflagged now)).1

lemma activeAt_cleared {p : CustomerAddress → Bool} : ActiveAt (cleared p now t) c k ↔ ActiveAt t c k := by
  constructor
  · rintro ⟨x, hx, rfl, hc, hactive⟩
    obtain ⟨r, hr, rfl⟩ := (Table.mem_updateMany _).mp hx
    split_ifs at hc hactive ⊢
    · exact ⟨r, hr, rfl, hc, hactive⟩
    · exact ⟨r, hr, rfl, hc, hactive⟩
  · rintro ⟨r, hr, rfl, hc, hactive⟩
    refine ⟨_, (Table.mem_updateMany _).mpr ⟨r, hr, rfl⟩, ?_⟩
    split_ifs
    · exact ⟨rfl, hc, hactive⟩
    · exact ⟨rfl, hc, hactive⟩

lemma defaultAt_cleared {p : CustomerAddress → Bool} : DefaultAt (cleared p now t) c k ↔
    ∃ r ∈ t, r.id = k ∧ r.customerId = c ∧ r.isActive = true ∧ r.isDefault = true ∧ p r = false := by
  constructor
  · rintro ⟨x, hx, rfl, hc, hactive, hdefault⟩
    obtain ⟨r, hr, rfl⟩ := (Table.mem_updateMany _).mp hx
    split_ifs at hc hactive hdefault ⊢ with hp
    exact ⟨r, hr, rfl, hc, hactive, hdefault, Bool.eq_false_iff.mpr hp⟩
  · rintro ⟨r, hr, rfl, hc, hactive, hdefault, hp⟩
    refine ⟨r, (Table.mem_updateMany _).mpr ⟨r, hr, ?_⟩, rfl, hc, hactive, hdefault⟩
    rw [hp]
    rfl

lemma find?_cleared {p : CustomerAddress → Bool} (h : t.find? k = some r) (hp : p r = false) :
    (cleared p now t).find? k = some r := by
  obtain ⟨hmem, hkey⟩ := find?_eq_some.mp h
  refine find?_eq_some.mpr ⟨(Table.mem_updateMany _).mpr ⟨r, hmem, ?_⟩, hkey⟩
  rw [hp]
  rfl

lemma cleared_eq_self {p : CustomerAddress → Bool} (hp : ∀ r, p r = false) : cleared p now t = t := by
  apply Table.ext
  refine (map_congr_left fun r _ => ?_).trans (List.map_id _)
  rw [hp]
  rfl

lemma findReplacement_eq_some {replacement : CustomerAddress}
    (h : findReplacement db customerId id = some replacement) :
    replacement ∈ db.addresses ∧ replacement.customerId = customerId ∧ replacement.isActive = true ∧
      replacement.id ≠ id := by
  obtain ⟨hmem, hcond⟩ := Table.mem_of_findFirst h
  simp only [cond_iff] at hcond
  exact ⟨hmem, hcond.1.1, hcond.1.2, hcond.2⟩

lemma findReplacement_eq_none : findReplacement db customerId id = none ↔
    ∀ k, k ≠ id → ¬ ActiveAt db.addresses customerId k := by
  rw [findReplacement, Table.findFirst_eq_none]
  constructor
  · rintro h k hne ⟨r, hr, rfl, hc, hactive⟩
    exact h r hr (by simp [hc, hactive, hne])
  · intro h r hr hcond
    simp only [cond_iff] at hcond
    exact h r.id hcond.2 ⟨r, hr, rfl, hcond.1.1, hcond.1.2⟩

lemma findReplacement_put {o : CustomerAddress} (ho : db.addresses.find? id = some o) (hr : r.id = id) :
    findReplacement { db with addresses := db.addresses.put r } customerId id =
      findReplacement db customerId id := by
  obtain ⟨hmem, hkey⟩ := find?_eq_some.mp ho
  have hsame := Table.findMany_put_of_not (p := fun x : CustomerAddress =>
    x.customerId = customerId && x.isActive && x.id ≠ id) hmem (hkey.trans hr.symm) (by simp [hkey]) (by simp [hr])
  rw [findReplacement, findReplacement, Table.findFirst, Table.findFirst, Table.findSorted, Table.findSorted]
  rw [hsame]

/-! ### What is written -/

lemma showAddress_commits {row : CustomerAddress} (h : Commits (showAddress customerId row) db () db') :
    db'.addresses = db.addresses ∧
      (db'.customers.find? customerId).bind Customer.address = some (formattedAddress row) := by
  simp only [showAddress, commits_steps, commits_update] at h
  obtain ⟨_, _, ⟨o, ho, rfl, rfl⟩, _, rfl⟩ := h
  obtain rfl : o.id = customerId := (find?_eq_some.mp ho).2
  have hfind : (db.customers.put { o with address := some (formattedAddress row) }).find? o.id =
      some { o with address := some (formattedAddress row) } := find?_put_self _ _
  exact ⟨rfl, congrArg (Option.bind · Customer.address) hfind⟩

/-- A new address is the default, and the flag taken from all others, or there is another active address. -/
lemma createAddress_commits {dto : CreateCustomerAddressDto}
    (h : Commits (createAddress customerId id dto now) db () db') :
    ∃ makeDefault : Bool, (makeDefault = false → ∃ k, ActiveAt db.addresses customerId k) ∧
      (∀ r ∈ db.addresses, r.id ≠ id) ∧
      db'.addresses = (cleared (fun r => makeDefault && r.customerId = customerId && r.isDefault) now
        db.addresses).put (dto.row id customerId now makeDefault) ∧
      (makeDefault = true → (db'.customers.find? customerId).bind Customer.address =
        some (formattedAddress (dto.row id customerId now makeDefault))) := by
  simp only [createAddress, commits_bind, commits_get, commits_updateMany, commits_create, commits_ite,
    commits_pure] at h
  obtain ⟨_, _, ⟨rfl, rfl⟩, _, _, ⟨_, rfl⟩, _, _, ⟨hnew, rfl⟩, hshow⟩ := h
  set makeDefault := dto.isDefault.getD false ||
    decide ((db.addresses.findMany fun r => r.customerId = customerId && r.isActive).length = 0) with hmake
  have hkeys (r : CustomerAddress) (hr : r ∈ db.addresses) : r.id ≠ id := by
    have hnone := find?_eq_none.mp hnew
    have hmem : (if (makeDefault && r.customerId = customerId && r.isDefault) = true then
        { r with isDefault := false, updatedAt := now } else r) ∈
        cleared (fun r => makeDefault && r.customerId = customerId && r.isDefault) now db.addresses :=
      (Table.mem_updateMany _).mpr ⟨r, hr, rfl⟩
    have hid := hnone _ hmem
    split_ifs at hid
    · exact hid
    · exact hid
  have hactive (hnot : makeDefault = false) : ∃ k, ActiveAt db.addresses customerId k := by
    rw [hmake, Bool.or_eq_false_iff, decide_eq_false_iff_not] at hnot
    obtain ⟨r, hr⟩ := List.exists_mem_of_length_pos (Nat.pos_of_ne_zero hnot.2)
    obtain ⟨hmem, hcond⟩ := mem_findMany.mp hr
    simp only [cond_iff] at hcond
    exact ⟨r.id, r, hmem, rfl, hcond.1, hcond.2⟩
  refine ⟨makeDefault, hactive, hkeys, ?_⟩
  obtain ⟨hdefault, hshow⟩ | ⟨hnot, _, rfl⟩ := hshow
  · obtain ⟨haddresses, haddress⟩ := showAddress_commits hshow
    exact ⟨haddresses, fun _ => haddress⟩
  · exact ⟨rfl, fun hdefault => absurd hdefault hnot⟩

def Replaced (customerId id now : ℕ) (db db' : AddressDb) : Prop :=
  match findReplacement db customerId id with
  | none => db' = db
  | some replacement => db'.addresses = db.addresses.put { replacement with isDefault := true, updatedAt := now } ∧
    (db'.customers.find? customerId).bind Customer.address = some (formattedAddress replacement)

lemma replaceDefault_commits (h : Commits (replaceDefault customerId id now) db () db') :
    Replaced customerId id now db db' := by
  simp only [replaceDefault, commits_steps] at h
  obtain h := h
  rw [Replaced]
  cases hfind : findReplacement db customerId id with
  | none =>
    rw [hfind] at h
    exact (commits_pure.mp h).2.symm
  | some replacement =>
    rw [hfind] at h
    simp only [commits_bind, commits_update] at h
    obtain ⟨_, _, ⟨o, ho, rfl, rfl⟩, hshow⟩ := h
    obtain ⟨hmem, _⟩ := findReplacement_eq_some hfind
    obtain rfl := mem_unique (find?_of_mem hmem) ho
    exact showAddress_commits hshow

def others (customerId id : ℕ) (dto : UpdateCustomerAddressDto) (r : CustomerAddress) : Bool :=
  dto.isDefault = some true && r.customerId = customerId && r.id ≠ id && r.isDefault

/-- The updated address gives the flag away: it is not active any more, or it has lost it. -/
def GivesAway (dto : UpdateCustomerAddressDto) (now : ℕ) (current : CustomerAddress) : Prop :=
  ((dto.patch now current).isActive = false ∨ dto.isDefault = some false) ∧ current.isDefault = true

/-- An update of `current`, with the state `s` before a replacement is looked for. -/
structure Updated (customerId id now : ℕ) (dto : UpdateCustomerAddressDto) (current : CustomerAddress)
    (db s db' : AddressDb) : Prop where
  found : db.addresses.find? id = some current
  owned : current.customerId = customerId
  rows : s.addresses = (cleared (others customerId id dto) now db.addresses).put (dto.patch now current)
  shown : (dto.patch now current).isDefault = true → (dto.patch now current).isActive = true →
    (s.customers.find? customerId).bind Customer.address = some (formattedAddress (dto.patch now current))
  replaced : GivesAway dto now current → Replaced customerId id now s db'
  kept : ¬ GivesAway dto now current → db' = s

lemma updateAddress_commits {dto : UpdateCustomerAddressDto}
    (h : Commits (updateAddress customerId id dto now) db () db') :
    ∃ current s, Updated customerId id now dto current db s db' := by
  simp only [updateAddress, commits_bind, commits_get, commits_orThrow, commits_updateMany, commits_update,
    commits_ite, commits_pure] at h
  obtain ⟨_, _, ⟨rfl, rfl⟩, current, _, ⟨hcurrent, rfl⟩, _, _, ⟨_, rfl⟩, row, _, ⟨o, ho, rfl, rfl⟩, hrest⟩ := h
  obtain ⟨hfind, hcustomer⟩ := Option.filter_eq_some_iff.mp hcurrent
  have hkey : current.id = id := (find?_eq_some.mp hfind).2
  have hstill : (cleared (others customerId id dto) now db.addresses).find? id = some current :=
    find?_cleared hfind (by simp [others, hkey])
  obtain rfl : current = o := mem_unique hstill ho
  obtain ⟨_, _, s, hshow, hreplace⟩ | ⟨hnot, hreplace⟩ := hrest
  · obtain ⟨haddresses, haddress⟩ := showAddress_commits hshow
    refine ⟨current, s, hfind, of_decide_eq_true hcustomer, haddresses, fun _ _ => haddress, ?_, ?_⟩
    · intro haway
      obtain ⟨_, hreplace⟩ | ⟨hstays, _⟩ := hreplace
      · exact replaceDefault_commits hreplace
      · exact absurd haway hstays
    · intro hstays
      obtain ⟨haway, _⟩ | ⟨_, _, hsame⟩ := hreplace
      · exact absurd haway hstays
      · exact hsame.symm
  · refine ⟨current, { db with
      addresses := (cleared (others customerId id dto) now db.addresses).put (dto.patch now current) },
      hfind, of_decide_eq_true hcustomer, rfl, ?_, ?_, ?_⟩
    · exact fun hdefault hactive => absurd ⟨hdefault, hactive⟩ hnot
    · intro haway
      obtain ⟨_, hreplace⟩ | ⟨hstays, _⟩ := hreplace
      · exact replaceDefault_commits hreplace
      · exact absurd haway hstays
    · intro hstays
      obtain ⟨haway, _⟩ | ⟨_, _, hsame⟩ := hreplace
      · exact absurd haway hstays
      · exact hsame.symm

/-! ### The states of an update -/

section Update

variable {dto : UpdateCustomerAddressDto} {current replacement : CustomerAddress} {s : AddressDb}

lemma Updated.key (h : Updated customerId id now dto current db s db') : current.id = id :=
  (find?_eq_some.mp h.found).2

lemma Updated.mem (h : Updated customerId id now dto current db s db') : current ∈ db.addresses :=
  (find?_eq_some.mp h.found).1

lemma Updated.defaultAt_current (h : Updated customerId id now dto current db s db') :
    DefaultAt db.addresses customerId id ↔ current.isActive = true ∧ current.isDefault = true := by
  constructor
  · rintro ⟨r, hr, hk, _, hactive, hdefault⟩
    rw [eq_of_key_eq h.mem hr (h.key.trans hk.symm)]
    exact ⟨hactive, hdefault⟩
  · exact fun hd => ⟨current, h.mem, h.key, h.owned, hd.1, hd.2⟩

lemma Updated.ne_of_other (h : Updated customerId id now dto current db s db') (hc : c ≠ customerId)
    (hk : ActiveAt db.addresses c k) : k ≠ id := by
  rintro rfl
  obtain ⟨r, hr, hid, hcustomer, _⟩ := hk
  rw [← eq_of_key_eq h.mem hr (h.key.trans hid.symm), h.owned] at hcustomer
  exact hc hcustomer.symm

lemma Updated.activeAt (h : Updated customerId id now dto current db s db') : ActiveAt s.addresses c k ↔
    k = id ∧ customerId = c ∧ (dto.patch now current).isActive = true ∨ k ≠ id ∧ ActiveAt db.addresses c k := by
  rw [h.rows, activeAt_put, activeAt_cleared]
  have hkey : (dto.patch now current).id = id := h.key
  have howned : (dto.patch now current).customerId = customerId := h.owned
  rw [hkey, howned]

lemma Updated.defaultAt (h : Updated customerId id now dto current db s db') : DefaultAt s.addresses c k ↔
    k = id ∧ customerId = c ∧ (dto.patch now current).isActive = true ∧ (dto.patch now current).isDefault = true ∨
      k ≠ id ∧ DefaultAt db.addresses c k ∧ ¬ (dto.isDefault = some true ∧ c = customerId) := by
  have hkey : (dto.patch now current).id = id := h.key
  have howned : (dto.patch now current).customerId = customerId := h.owned
  rw [h.rows, defaultAt_put, defaultAt_cleared, hkey, howned]
  refine or_congr Iff.rfl (and_congr_right fun hne => ?_)
  constructor
  · rintro ⟨r, hr, rfl, rfl, hactive, hdefault, hother⟩
    refine ⟨⟨r, hr, rfl, rfl, hactive, hdefault⟩, ?_⟩
    rintro ⟨htrue, hc⟩
    simp [others, htrue, hc, hne, hdefault] at hother
  · rintro ⟨⟨r, hr, rfl, rfl, hactive, hdefault⟩, hnot⟩
    refine ⟨r, hr, rfl, rfl, hactive, hdefault, ?_⟩
    rw [Bool.eq_false_iff]
    intro hother
    simp only [others, cond_iff] at hother
    exact hnot ⟨hother.1.1.1, hother.1.1.2⟩

lemma Updated.replacement_iff (h : Updated customerId id now dto current db s db') :
    findReplacement s customerId id = none ↔ findReplacement db customerId id = none := by
  rw [findReplacement_eq_none, findReplacement_eq_none]
  refine forall_congr' fun k => imp_congr_right fun hne => not_congr ?_
  rw [h.activeAt]
  simp [hne]

lemma Updated.replacement_eq (h : Updated customerId id now dto current db s db')
    (hnot : dto.isDefault ≠ some true) : findReplacement s customerId id = findReplacement db customerId id := by
  have hrows : s.addresses = db.addresses.put (dto.patch now current) := by
    rw [h.rows, cleared_eq_self fun r => by simp [others, hnot]]
  rw [← findReplacement_put (r := dto.patch now current) h.found h.key, findReplacement, findReplacement, hrows]

lemma Replaced.activeAt (h : Replaced customerId id now s db') :
    ActiveAt db'.addresses c k ↔ ActiveAt s.addresses c k := by
  rw [Replaced] at h
  cases hfind : findReplacement s customerId id with
  | none =>
    rw [hfind] at h
    rw [h]
  | some replacement =>
    rw [hfind] at h
    obtain ⟨hmem, hcustomer, hactive, _⟩ := findReplacement_eq_some hfind
    rw [h.1, activeAt_put]
    constructor
    · rintro (⟨rfl, hc, _⟩ | ⟨_, hk⟩)
      · exact ⟨replacement, hmem, rfl, hc, hactive⟩
      · exact hk
    · intro hk
      by_cases hne : k = replacement.id
      · subst hne
        obtain ⟨r, hr, hid, hc, _⟩ := hk
        rw [eq_of_key_eq hr hmem hid] at hc
        exact .inl ⟨rfl, hc, hactive⟩
      · exact .inr ⟨hne, hk⟩

lemma Replaced.defaultAt (h : Replaced customerId id now s db')
    (hfind : findReplacement s customerId id = some replacement) : DefaultAt db'.addresses c k ↔
      k = replacement.id ∧ customerId = c ∨ k ≠ replacement.id ∧ DefaultAt s.addresses c k := by
  rw [Replaced, hfind] at h
  obtain ⟨_, hcustomer, hactive, _⟩ := findReplacement_eq_some hfind
  rw [h.1, defaultAt_put]
  simp [hcustomer, hactive]

lemma Updated.activeAt_after (h : Updated customerId id now dto current db s db') :
    ActiveAt db'.addresses c k ↔ ActiveAt s.addresses c k := by
  by_cases haway : GivesAway dto now current
  · exact (h.replaced haway).activeAt
  · rw [h.kept haway]

lemma Updated.other (h : Updated customerId id now dto current db s db') (hc : c ≠ customerId)
    (hone : OneChosen (ActiveAt db.addresses c) (DefaultAt db.addresses c)) :
    OneChosen (ActiveAt db'.addresses c) (DefaultAt db'.addresses c) := by
  have hactive (k : ℕ) : ActiveAt s.addresses c k ↔ ActiveAt db.addresses c k := by
    rw [h.activeAt]
    simpa [hc.symm] using h.ne_of_other (k := k) hc
  have hdefault (k : ℕ) : DefaultAt s.addresses c k ↔ DefaultAt db.addresses c k := by
    rw [h.defaultAt]
    simpa [hc.symm, hc] using fun hk : DefaultAt db.addresses c k => h.ne_of_other hc hk.active
  refine OneChosen.congr hone (fun k => h.activeAt_after.trans (hactive k)) fun k => ?_
  rw [← hdefault k]
  by_cases haway : GivesAway dto now current
  · cases hfind : findReplacement s customerId id with
    | none =>
      have hsame := h.replaced haway
      rw [Replaced, hfind] at hsame
      rw [hsame]
    | some replacement =>
      obtain ⟨hmem, hcustomer, _⟩ := findReplacement_eq_some hfind
      rw [(h.replaced haway).defaultAt hfind]
      constructor
      · rintro (⟨_, heq⟩ | ⟨_, hk⟩)
        · exact absurd heq.symm hc
        · exact hk
      · intro hk
        refine .inr ⟨?_, hk⟩
        rintro rfl
        obtain ⟨r, hr, hid, hrc, _⟩ := hk
        rw [eq_of_key_eq hr hmem hid, hcustomer] at hrc
        exact hc hrc.symm
  · rw [h.kept haway]

lemma Updated.alone (h : Updated customerId id now dto current db s db')
    (hnone : findReplacement db customerId id = none) :
    OneChosen (ActiveAt db'.addresses customerId) (DefaultAt db'.addresses customerId) ↔
      ((dto.patch now current).isActive = true → (dto.patch now current).isDefault = true) := by
  have hothers := findReplacement_eq_none.mp hnone
  have hsame : db' = s := by
    by_cases haway : GivesAway dto now current
    · have hreplaced := h.replaced haway
      rwa [Replaced, h.replacement_iff.mpr hnone] at hreplaced
    · exact h.kept haway
  have hmember (k : ℕ) (hk : ActiveAt s.addresses customerId k) : k = id := by
    obtain ⟨hid, _⟩ | ⟨hne, hold⟩ := h.activeAt.mp hk
    · exact hid
    · exact absurd hold (hothers k hne)
  have hchosen (k : ℕ) : DefaultAt s.addresses customerId k ↔ k = id ∧
      ((dto.patch now current).isActive = true ∧ (dto.patch now current).isDefault = true) := by
    rw [h.defaultAt]
    constructor
    · rintro (⟨hid, _, hd⟩ | ⟨hne, hd, _⟩)
      · exact ⟨hid, hd⟩
      · exact absurd hd.active (hothers k hne)
    · exact fun hd => .inl ⟨hd.1, rfl, hd.2⟩
  have hself : ActiveAt s.addresses customerId id ↔ (dto.patch now current).isActive = true := by
    rw [h.activeAt]
    simp
  rw [hsame, oneChosen_alone hmember hchosen, hself]
  exact ⟨fun hp hactive => (hp hactive).2, fun hp hactive => ⟨hactive, hp hactive⟩⟩

lemma Updated.member (h : Updated customerId id now dto current db s db')
    (hsome : findReplacement db customerId id = some replacement) :
    ∃ k, ActiveAt db'.addresses customerId k := by
  obtain ⟨hmem, hcustomer, hactive, hne⟩ := findReplacement_eq_some hsome
  refine ⟨replacement.id, h.activeAt_after.mpr (h.activeAt.mpr (Or.inr ⟨hne, ?_⟩))⟩
  exact ⟨replacement, hmem, rfl, hcustomer, hactive⟩

/-- Where the flag is taken from all others, the updated address has to be active or to give it away. -/
lemma Updated.taken (h : Updated customerId id now dto current db s db')
    (hsome : findReplacement db customerId id = some replacement) (htrue : dto.isDefault = some true) :
    OneChosen (ActiveAt db'.addresses customerId) (DefaultAt db'.addresses customerId) ↔
      ((dto.patch now current).isActive = true ∨ current.isDefault = true) := by
  have hdefault : (dto.patch now current).isDefault = true := by simp [UpdateCustomerAddressDto.patch, htrue]
  have hs (k : ℕ) : DefaultAt s.addresses customerId k ↔ k = id ∧ (dto.patch now current).isActive = true := by
    rw [h.defaultAt]
    simp [htrue, hdefault]
  rw [oneChosen_of_member (h.member hsome)]
  by_cases haway : GivesAway dto now current
  · obtain hinactive | hfalse := haway.1
    · have hnone (k : ℕ) : ¬ DefaultAt s.addresses customerId k := by
        rw [hs, hinactive]
        simp
      cases hfind : findReplacement s customerId id with
      | none =>
        rw [h.replacement_iff, hsome] at hfind
        cases hfind
      | some other =>
        have hchosen (k : ℕ) : DefaultAt db'.addresses customerId k ↔ k = other.id := by
          rw [(h.replaced haway).defaultAt hfind]
          simp [hnone]
        simp [hchosen, haway.2]
    · rw [htrue] at hfalse
      cases hfalse
  · rw [h.kept haway]
    simp only [hs]
    constructor
    · rintro ⟨k, ⟨_, hactive⟩, _⟩
      exact .inl hactive
    · intro hor
      have hactive : (dto.patch now current).isActive = true := by
        by_contra hnot
        exact haway ⟨.inl (Bool.eq_false_iff.mpr hnot), hor.resolve_left hnot⟩
      exact ⟨id, ⟨rfl, hactive⟩, fun k hk => hk.1⟩

lemma Updated.defaultAt_left (h : Updated customerId id now dto current db s db')
    (hnot : dto.isDefault ≠ some true) : DefaultAt s.addresses customerId k ↔
      k = id ∧ (dto.patch now current).isActive = true ∧ (dto.patch now current).isDefault = true ∨
        k ≠ id ∧ DefaultAt db.addresses customerId k := by
  rw [h.defaultAt]
  simp [hnot]

/-- An address that gives the flag away has to be active, or to give it to the one that has it. -/
lemma Updated.left_away (h : Updated customerId id now dto current db s db')
    (hsome : findReplacement db customerId id = some replacement) (hnot : dto.isDefault ≠ some true)
    (hone : ∃! d, DefaultAt db.addresses customerId d) (haway : GivesAway dto now current) :
    (∃! d, DefaultAt db'.addresses customerId d) ↔ current.isActive = true ∨ replacement.isDefault = true := by
  obtain ⟨hmem, hcustomer, hactive, hne⟩ := findReplacement_eq_some hsome
  obtain ⟨d, hd, huniq⟩ := hone
  have hgone : ¬ ((dto.patch now current).isActive = true ∧ (dto.patch now current).isDefault = true) := by
    rintro ⟨hstill, hdefault⟩
    obtain hinactive | hfalse := haway.1
    · rw [hinactive] at hstill
      cases hstill
    · simp [UpdateCustomerAddressDto.patch, hfalse] at hdefault
  have hchosen (k : ℕ) : DefaultAt db'.addresses customerId k ↔
      k = replacement.id ∨ k ≠ replacement.id ∧ (k ≠ id ∧ DefaultAt db.addresses customerId k) := by
    rw [(h.replaced haway).defaultAt ((h.replacement_eq hnot).trans hsome), h.defaultAt_left hnot]
    simp [hgone]
  simp only [hchosen]
  rw [existsUnique_with]
  constructor
  · intro hall
    by_cases hwas : current.isActive = true
    · exact .inl hwas
    · have hdne : d ≠ id := by
        rintro rfl
        exact hwas (h.defaultAt_current.mp hd).1
      rw [hall d ⟨hdne, hd⟩] at hd
      obtain ⟨r, hr, hid, _, _, hdefault⟩ := hd
      rw [eq_of_key_eq hr hmem hid] at hdefault
      exact .inr hdefault
  · rintro (hwas | hdefault) k ⟨hk, hdk⟩
    · have hid := h.defaultAt_current.mpr ⟨hwas, haway.2⟩
      exact absurd ((huniq k hdk).trans (huniq id hid).symm) hk
    · have hother : DefaultAt db.addresses customerId replacement.id :=
        ⟨replacement, hmem, rfl, hcustomer, hactive, hdefault⟩
      exact (huniq k hdk).trans (huniq _ hother).symm

/-- An address that keeps the flag has to have been active. -/
lemma Updated.left_kept (h : Updated customerId id now dto current db s db') (hnot : dto.isDefault ≠ some true)
    (hone : ∃! d, DefaultAt db.addresses customerId d) (hkept : ¬ GivesAway dto now current) :
    (∃! d, DefaultAt db'.addresses customerId d) ↔ (current.isDefault = true → current.isActive = true) := by
  obtain ⟨d, hd, huniq⟩ := hone
  rw [h.kept hkept]
  have hlost (hdefault : (dto.patch now current).isDefault = true) : current.isDefault = true := by
    cases hdto : dto.isDefault with
    | none => simpa [UpdateCustomerAddressDto.patch, hdto] using hdefault
    | some b =>
      obtain rfl : b = false := Bool.eq_false_iff.mpr fun hb => hnot (hdto.trans (congrArg some hb))
      simp [UpdateCustomerAddressDto.patch, hdto] at hdefault
  by_cases hcurrent : current.isDefault = true
  · have hactive : (dto.patch now current).isActive = true := by
      by_contra hinactive
      exact hkept ⟨.inl (Bool.eq_false_iff.mpr hinactive), hcurrent⟩
    have hdefault : (dto.patch now current).isDefault = true := by
      cases hdto : dto.isDefault with
      | none => simp [UpdateCustomerAddressDto.patch, hdto, hcurrent]
      | some b =>
        obtain rfl : b = false := Bool.eq_false_iff.mpr fun hb => hnot (hdto.trans (congrArg some hb))
        exact absurd ⟨.inr hdto, hcurrent⟩ hkept
    have hchosen (k : ℕ) : DefaultAt s.addresses customerId k ↔
        k = id ∨ k ≠ id ∧ DefaultAt db.addresses customerId k := by
      rw [h.defaultAt_left hnot]
      simp [hactive, hdefault]
    simp only [hchosen]
    rw [existsUnique_with]
    constructor
    · intro hall _
      have hid := hall d hd
      subst hid
      exact (h.defaultAt_current.mp hd).1
    · intro hwas k hk
      exact (huniq k hk).trans (huniq id (h.defaultAt_current.mpr ⟨hwas hcurrent, hcurrent⟩)).symm
  · have hchosen (k : ℕ) : DefaultAt s.addresses customerId k ↔ DefaultAt db.addresses customerId k := by
      rw [h.defaultAt_left hnot]
      constructor
      · rintro (⟨_, _, hdefault⟩ | ⟨_, hk⟩)
        · exact absurd (hlost hdefault) hcurrent
        · exact hk
      · intro hk
        refine .inr ⟨?_, hk⟩
        rintro rfl
        exact hcurrent (h.defaultAt_current.mp hk).2
    simp only [hchosen]
    exact ⟨fun _ hdefault => absurd hdefault hcurrent, fun _ => ⟨d, hd, huniq⟩⟩

end Update

variable {dto : UpdateCustomerAddressDto} {current : CustomerAddress}

/-- What keeps one default: the only address has the flag if it is active; a flag that is taken from all others
goes to an active address or is given away again; and a flag that has stayed at an address that is not active is
given to the address that has it. -/
def KeepsDefault (db : AddressDb) (customerId id : ℕ) (dto : UpdateCustomerAddressDto)
    (current : CustomerAddress) : Prop :=
  match findReplacement db customerId id with
  | none => dto.isActive.getD current.isActive = true → dto.isDefault.getD current.isDefault = true
  | some replacement =>
    if dto.isDefault = some true then dto.isActive.getD current.isActive = true ∨ current.isDefault = true
    else current.isDefault = true → current.isActive = true ∨
      (dto.isActive.getD current.isActive = false ∨ dto.isDefault = some false) ∧ replacement.isDefault = true

lemma Updated.keepsDefault_iff {s : AddressDb} (h : Updated customerId id now dto current db s db')
    (hone : OneDefault db) : OneDefault db' ↔ KeepsDefault db customerId id dto current := by
  have hsplit : OneDefault db' ↔
      OneChosen (ActiveAt db'.addresses customerId) (DefaultAt db'.addresses customerId) := by
    constructor
    · exact fun hone' => hone' customerId
    · intro hthis c
      by_cases hc : c = customerId
      · subst hc
        exact hthis
      · exact h.other hc (hone c)
  rw [hsplit, KeepsDefault]
  cases hfind : findReplacement db customerId id with
  | none => exact h.alone hfind
  | some replacement =>
    obtain ⟨hmem, hcustomer, hactive, _⟩ := findReplacement_eq_some hfind
    dsimp only
    by_cases htrue : dto.isDefault = some true
    · rw [if_pos htrue]
      exact h.taken hfind htrue
    · rw [if_neg htrue, oneChosen_of_member (h.member hfind)]
      have hbefore := hone customerId ⟨replacement.id, replacement, hmem, rfl, hcustomer, hactive⟩
      by_cases haway : GivesAway dto now current
      · rw [h.left_away hfind htrue hbefore haway]
        constructor
        · exact fun hor _ => hor.imp_right fun hdefault => ⟨haway.1, hdefault⟩
        · exact fun hor => (hor haway.2).imp_right fun hr => hr.2
      · rw [h.left_kept htrue hbefore haway]
        constructor
        · exact fun hwas hcurrent => .inl (hwas hcurrent)
        · exact fun hor hcurrent => (hor hcurrent).resolve_right fun hr => haway ⟨hr.1, hcurrent⟩

/-- A new address keeps one default. -/
lemma createAddress_oneDefault {dto : CreateCustomerAddressDto}
    (h : Commits (createAddress customerId id dto now) db () db') (hone : OneDefault db) : OneDefault db' := by
  obtain ⟨makeDefault, hcount, hfresh, hrows, _⟩ := createAddress_commits h
  have hid : (dto.row id customerId now makeDefault).id = id := rfl
  have hcustomer : (dto.row id customerId now makeDefault).customerId = customerId := rfl
  have hflag : (dto.row id customerId now makeDefault).isDefault = makeDefault := rfl
  have hactive : (dto.row id customerId now makeDefault).isActive = true := rfl
  have hne (c k : ℕ) (hk : ActiveAt db.addresses c k) : k ≠ id := by
    obtain ⟨r, hr, rfl, _⟩ := hk
    exact hfresh r hr
  have hmember (c k : ℕ) :
      ActiveAt db'.addresses c k ↔ k = id ∧ customerId = c ∨ ActiveAt db.addresses c k := by
    rw [hrows, activeAt_put, activeAt_cleared, hid, hcustomer, hactive]
    simp only [and_true]
    exact or_congr Iff.rfl (and_iff_right_of_imp (hne c k))
  intro c
  by_cases hmine : c = customerId ∧ makeDefault = true
  · obtain ⟨rfl, rfl⟩ := hmine
    have hchosen (k : ℕ) : DefaultAt db'.addresses c k ↔ k = id := by
      rw [hrows, defaultAt_put, defaultAt_cleared, hid, hcustomer, hactive, hflag]
      constructor
      · rintro (⟨hk, _⟩ | ⟨_, r, _, _, hc, _, hdefault, hp⟩)
        · exact hk
        · simp [hc, hdefault] at hp
      · exact fun hk => .inl ⟨hk, rfl, rfl, rfl⟩
    intro _
    exact ⟨id, (hchosen id).mpr rfl, fun k hk => (hchosen k).mp hk⟩
  · have hchosen (k : ℕ) : DefaultAt db'.addresses c k ↔ DefaultAt db.addresses c k := by
      rw [hrows, defaultAt_put, defaultAt_cleared, hid, hcustomer, hactive, hflag]
      constructor
      · rintro (⟨_, hc, _, hdefault⟩ | ⟨_, r, hr, hk, hc, hra, hrd, _⟩)
        · exact absurd ⟨hc.symm, hdefault⟩ hmine
        · exact ⟨r, hr, hk, hc, hra, hrd⟩
      · intro hk
        have hnew := hne c k hk.active
        obtain ⟨r, hr, hrk, hc, hra, hrd⟩ := hk
        refine .inr ⟨hnew, r, hr, hrk, hc, hra, hrd, ?_⟩
        rw [Bool.eq_false_iff]
        intro hp
        simp only [cond_iff] at hp
        exact hmine ⟨hc.symm.trans hp.1.2, hp.1.1⟩
    rintro ⟨k, hk⟩
    have hbefore : ∃ k, ActiveAt db.addresses c k := by
      obtain ⟨_, rfl⟩ | hk := (hmember c k).mp hk
      · exact hcount (Bool.eq_false_iff.mpr fun hdefault => hmine ⟨rfl, hdefault⟩)
      · exact ⟨k, hk⟩
    obtain ⟨d, hd, huniq⟩ := hone c hbefore
    exact ⟨d, (hchosen d).mpr hd, fun x hx => huniq x ((hchosen x).mp hx)⟩

lemma createAddress_follows {dto : CreateCustomerAddressDto}
    (h : Commits (createAddress customerId id dto now) db () db') : AddressFollows db db' := by
  obtain ⟨makeDefault, _, _, hrows, hshown⟩ := createAddress_commits h
  intro c k hnew hold
  rw [hrows, defaultAt_put, defaultAt_cleared] at hnew
  obtain ⟨rfl, rfl, _, hdefault⟩ | ⟨_, r, hr, hk, hc, hactive, hdefault, _⟩ := hnew
  · refine ⟨dto.row k customerId now makeDefault, ?_, rfl, hshown hdefault⟩
    rw [hrows]
    exact mem_put_self _ _
  · exact absurd ⟨r, hr, hk, hc, hactive, hdefault⟩ hold

/-- So is an address that becomes the default when it or another one is updated. -/
lemma Updated.follows {s : AddressDb} (h : Updated customerId id now dto current db s db') :
    AddressFollows db db' := by
  have hself (c k : ℕ) (hnew : DefaultAt s.addresses c k) (hold : ¬ DefaultAt db.addresses c k) :
      k = id ∧ customerId = c ∧ (dto.patch now current).isActive = true ∧
        (dto.patch now current).isDefault = true := by
    obtain hk | ⟨_, hd, _⟩ := h.defaultAt.mp hnew
    · exact hk
    · exact absurd hd hold
  intro c k hnew hold
  by_cases haway : GivesAway dto now current
  · have hgone (hstays : (dto.patch now current).isActive = true ∧ (dto.patch now current).isDefault = true) :
        False := by
      obtain hinactive | hfalse := haway.1
      · simp [hinactive] at hstays
      · simp [UpdateCustomerAddressDto.patch, hfalse] at hstays
    have hreplaced := h.replaced haway
    cases hfind : findReplacement s customerId id with
    | none =>
      rw [Replaced, hfind] at hreplaced
      rw [hreplaced] at hnew
      exact (hgone (hself c k hnew hold).2.2).elim
    | some replacement =>
      obtain ⟨rfl, rfl⟩ | ⟨_, hk⟩ := (hreplaced.defaultAt hfind).mp hnew
      · rw [Replaced, hfind] at hreplaced
        refine ⟨{ replacement with isDefault := true, updatedAt := now }, ?_, rfl, hreplaced.2⟩
        rw [hreplaced.1]
        exact mem_put_self _ _
      · exact (hgone (hself c k hk hold).2.2).elim
  · rw [h.kept haway] at hnew ⊢
    obtain ⟨rfl, rfl, hactive, hdefault⟩ := hself c k hnew hold
    refine ⟨dto.patch now current, ?_, h.key, h.shown hdefault hactive⟩
    rw [h.rows]
    exact mem_put_self _ _

/-! ### Runs -/

inductive AddressAction where
  | create (customerId id : ℕ) (dto : CreateCustomerAddressDto) (now : ℕ)
  | update (customerId id : ℕ) (dto : UpdateCustomerAddressDto) (now : ℕ)
  | remove (customerId id now : ℕ)

def AddressAction.run : AddressAction → AddressTx Unit
  | .create customerId id dto now => createAddress customerId id dto now
  | .update customerId id dto now => updateAddress customerId id dto now
  | .remove customerId id now => removeAddress customerId id now

def AddressStep (db : AddressDb) (a : AddressAction) (db' : AddressDb) : Prop := Commits a.run db () db'

def KeepsOneDefault (db : AddressDb) : AddressAction → Prop
  | .create _ _ _ _ => True
  | .update customerId id dto _ =>
    ∀ current, db.addresses.find? id = some current → KeepsDefault db customerId id dto current
  | .remove customerId id _ =>
    ∀ current, db.addresses.find? id = some current →
      KeepsDefault db customerId id { isActive := some false } current

lemma updateAddress_keeps_iff {dto : UpdateCustomerAddressDto}
    (h : Commits (updateAddress customerId id dto now) db () db') (hone : OneDefault db) :
    OneDefault db' ∧ AddressFollows db db' ↔
      ∀ current, db.addresses.find? id = some current → KeepsDefault db customerId id dto current := by
  obtain ⟨current, s, hupdated⟩ := updateAddress_commits h
  rw [hupdated.keepsDefault_iff hone, hupdated.found]
  constructor
  · rintro ⟨hkeeps, _⟩ r hr
    cases hr
    exact hkeeps
  · exact fun hkeeps => ⟨hkeeps current rfl, hupdated.follows⟩

/-- In a run of a customer's actions there is always one default, and its text is shown, exactly if every update
and every removal keeps the default. -/
theorem oneDefault_iff {actions : List AddressAction} (hone : OneDefault db) :
    Run (fun s a s' => AddressStep s a s' ∧ (OneDefault s' ∧ AddressFollows s s')) db actions db' ↔
      Run (Guarded KeepsOneDefault AddressStep) db actions db' := by
  refine Run.and_iff_guarded_of_landing (J := fun _ => True) (I := OneDefault) (fun _ _ _ _ _ => trivial)
    (fun _ _ _ hp => hp.1) ?_ trivial hone
  intro s a s' _ hs hstep
  cases a with
  | create customerId id dto now =>
    exact iff_of_true ⟨createAddress_oneDefault hstep hs, createAddress_follows hstep⟩ trivial
  | update customerId id dto now => exact updateAddress_keeps_iff hstep hs
  | remove customerId id now => exact updateAddress_keeps_iff hstep hs

/-! ### Two addresses -/

def newCustomer : AddressDb := { customers := Table.empty.put { id := 1 }, addresses := Table.empty }

def home : CreateCustomerAddressDto :=
  { label := "Rumah", recipientName := "Ibu Sari", phone := "0811", addressLine := "Jalan Melati 1" }

def office : CreateCustomerAddressDto :=
  { label := "Kantor", recipientName := "Ibu Sari", phone := "0811", addressLine := "Jalan Kenanga 2" }

def withHome : AddressDb := (execute (createAddress 1 1 home 0) newCustomer).2

def withOffice : AddressDb := (execute (createAddress 1 2 office 1) withHome).2

def withoutHome : AddressDb := (execute (removeAddress 1 1 2) withOffice).2

def homeAgain : AddressDb := (execute (updateAddress 1 1 { isActive := some true } 3) withoutHome).2

lemma step_home : AddressStep newCustomer (.create 1 1 home 0) withHome :=
  commits_of_execute (by decide +kernel)

lemma step_office : AddressStep withHome (.create 1 2 office 1) withOffice :=
  commits_of_execute (by decide +kernel)

lemma step_removed : AddressStep withOffice (.remove 1 1 2) withoutHome :=
  commits_of_execute (by decide +kernel)

lemma oneDefault_newCustomer : OneDefault newCustomer := by
  rintro c ⟨k, r, hr, _⟩
  exact absurd hr (not_mem_empty r)

theorem oneDefault_removed : Run
    (fun s a s' => AddressStep s a s' ∧ (OneDefault s' ∧ AddressFollows s s')) newCustomer
    [.create 1 1 home 0, .create 1 2 office 1, .remove 1 1 2] withoutHome := by
  refine (oneDefault_iff oneDefault_newCustomer).mpr ?_
  refine Run.cons ⟨trivial, step_home⟩ (Run.cons ⟨trivial, step_office⟩ (Run.cons ⟨?_, step_removed⟩ (Run.nil _)))
  intro current hcurrent
  obtain rfl : home.row 1 1 0 true = current :=
    Option.some.inj (Eq.trans (by decide +kernel) hcurrent)
  have hfind : findReplacement withOffice 1 1 = some (office.row 2 1 1 false) := by decide +kernel
  rw [KeepsDefault, hfind]
  exact fun _ => .inl rfl

/-- A home that is taken back has kept the flag, and there are two defaults. -/
theorem not_oneDefault_again : ∃ db, Run AddressStep newCustomer
    [.create 1 1 home 0, .create 1 2 office 1, .remove 1 1 2, .update 1 1 { isActive := some true } 3] db ∧
      db.addresses.rows.map (fun r => (r.isActive, r.isDefault)) = [(true, true), (true, true)] ∧
      ¬ OneDefault db := by
  have hagain : AddressStep withoutHome (.update 1 1 { isActive := some true } 3) homeAgain :=
    commits_of_execute (by decide +kernel)
  refine ⟨homeAgain, Run.cons step_home (Run.cons step_office (Run.cons step_removed (Run.cons hagain (Run.nil _)))),
    by decide +kernel, fun hone => ?_⟩
  have hhome : DefaultAt homeAgain.addresses 1 1 := by
    refine ⟨home.row 1 1 3 true, ?_, rfl, rfl, rfl, rfl⟩
    exact List.mem_of_elem_eq_true (by decide +kernel)
  have hoffice : DefaultAt homeAgain.addresses 1 2 := by
    refine ⟨office.row 2 1 2 true, ?_, rfl, rfl, rfl, rfl⟩
    exact List.mem_of_elem_eq_true (by decide +kernel)
  exact absurd ((hone 1 ⟨1, hhome.active⟩).unique hhome hoffice) (by decide)

end Mayatoko.Storefront
