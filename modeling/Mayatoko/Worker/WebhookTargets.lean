import Mayatoko.Core.IpAddress
import Mayatoko.Worker.Webhooks

/-!
# Where webhooks may go

`assertSafeWebhookTarget` looks the host of a webhook up and refuses it if one of the addresses is private,
which `privateIp` reads off the beginning of the text. `isIP` is that of the platform; all that is used of it
is that it knows the texts of the addresses.
-/

namespace Mayatoko.Worker

open Core

inductive IpAddress
  | v4 (x : Ipv4)
  | v6 (x : Ipv6)

def IpAddress.text : IpAddress → List Char
  | .v4 x => x.text
  | .v6 x => x.text

/-! ### Private addresses -/

def LocalV4 (x : Ipv4) : Prop :=
  x.a.val = 0 ∨ x.a.val = 127 ∨ x.a.val = 10 ∨ (x.a.val = 172 ∧ 16 ≤ x.b.val ∧ x.b.val ≤ 31) ∨
    (x.a.val = 192 ∧ x.b.val = 168) ∨ (x.a.val = 169 ∧ x.b.val = 254)

/-- Unspecified, loopback, unique local (`fc00::/7`), link-local (`fe80::/10`), or a mapped address of version 4
that is one of these. -/
def LocalV6 (x : Ipv6) : Prop :=
  x.groups = [0, 0, 0, 0, 0, 0, 0, 0] ∨ x.groups = [0, 0, 0, 0, 0, 0, 0, 1] ∨
    x.groups.headD 0 / 2 ^ 9 = 0xfc00 / 2 ^ 9 ∨ x.groups.headD 0 / 2 ^ 6 = 0xfe80 / 2 ^ 6 ∨
      ∃ y, LocalV4 y ∧ x = y.mapped

def Local : IpAddress → Prop
  | .v4 x => LocalV4 x
  | .v6 x => LocalV6 x

def TakenPrivateV4 (x : Ipv4) : Prop := LocalV4 x ∧ (x.a.val = 0 → x = ⟨0, 0, 0, 0⟩)

/-- The groups `fc` and `fd`, and those that start with them, and the group `fe80`. -/
def TakenPrivateV6 (x : Ipv6) : Prop :=
  x.groups = [0, 0, 0, 0, 0, 0, 0, 1] ∨ (∃ k, x.groups.headD 0 / 16 ^ k = 0xfc) ∨
    (∃ k, x.groups.headD 0 / 16 ^ k = 0xfd) ∨ x.groups.headD 0 = 0xfe80

def TakenPrivate : IpAddress → Prop
  | .v4 x => TakenPrivateV4 x
  | .v6 x => TakenPrivateV6 x

variable {isIP : List Char → ℕ}

lemma privateIp_eq_true {address : List Char} (h : isIP address ≠ 0) : privateIp isIP address = true ↔
    address = "::1".toList ∨ address = "0.0.0.0".toList ∨ "127.".toList <+: address ∨ "10.".toList <+: address ∨
      "192.168.".toList <+: address ∨ "169.254.".toList <+: address ∨
      (∃ n ∈ match172 address, 16 ≤ n ∧ n ≤ 31) ∨ "fc".toList <+: address ∨ "fd".toList <+: address ∨
      "fe80:".toList <+: address := by
  rw [privateIp, if_neg h]
  simp only [startsWith, Bool.if_true_left, Bool.or_eq_true, List.isPrefixOf_iff_prefix, Option.any_eq_true,
    cond_iff, Option.mem_def, or_assoc]

/-! ### Version 4 -/

lemma match172_text (x : Ipv4) {n : ℕ} : n ∈ match172 x.text ↔ x.a.val = 172 ∧ x.b.val = n := by
  have hstart : startsWith x.text "172." = true ↔ x.a.val = 172 :=
    List.isPrefixOf_iff_prefix.trans (x.decimal_prefix_text_iff 172)
  by_cases h172 : x.a.val = 172
  · have htext : x.text.drop 4 = decimal x.b ++ '.' :: (decimal x.c ++ '.' :: decimal x.d) := by
      rw [Ipv4.text, h172]
      rfl
    have hdigit : ∀ c ∈ decimal x.b, c.isDigit = true :=
      fun c hc => Nat.isDigit_of_mem_toDigits (by decide) (by decide) hc
    have htake : (x.text.drop 4).takeWhile Char.isDigit = decimal x.b := by
      rw [htext, List.takeWhile_append_of_pos hdigit, List.takeWhile_cons_of_neg (by decide), append_nil]
    have hdrop : startsWith ((x.text.drop 4).dropWhile Char.isDigit) "." = true := by
      rw [htext, List.dropWhile_append_of_pos hdigit, List.dropWhile_cons_of_neg (by decide)]
      rfl
    rw [match172, if_pos (hstart.mpr h172)]
    simp only [htake, hdrop]
    rw [if_pos ⟨Nat.toDigits_ne_nil, trivial⟩, Option.mem_some_iff, decimal,
      Nat.ofDigitChars_ten_toDigits, and_iff_right h172]
  · rw [match172, if_neg (hstart.not.mpr h172)]
    exact iff_of_false (Option.not_mem_none n) fun h => h172 h.1

lemma not_letter_prefix_text (x : Ipv4) {l : List Char} (hdot : '.' ∉ l) {c : Char} (hc : c ∈ l)
    (hletter : c.isDigit = false) : ¬ l <+: x.text := by
  intro h
  rw [Ipv4.text, prefix_append_cons_iff hdot] at h
  exact not_mem_toDigits hletter _ (h.subset hc)

lemma takenPrivateV4_iff (x : Ipv4) : TakenPrivateV4 x ↔ x = ⟨0, 0, 0, 0⟩ ∨ x.a.val = 127 ∨ x.a.val = 10 ∨
    (x.a.val = 192 ∧ x.b.val = 168) ∨ (x.a.val = 169 ∧ x.b.val = 254) ∨
      x.a.val = 172 ∧ 16 ≤ x.b.val ∧ x.b.val ≤ 31 := by
  rw [TakenPrivateV4, LocalV4]
  by_cases h0 : x = ⟨0, 0, 0, 0⟩
  · subst h0
    simp
  · rw [or_iff_right h0]
    by_cases ha : x.a.val = 0
    · refine iff_of_false (fun hlocal => h0 (hlocal.2 ha)) ?_
      omega
    · rw [and_iff_left fun h => absurd h ha]
      omega

/-- What the text of an address of version 4 starts with. -/
structure StartsV4 (x : Ipv4) : Prop where
  one : x.text ≠ "::1".toList
  zero : x.text = "0.0.0.0".toList ↔ x = ⟨0, 0, 0, 0⟩
  s127 : "127.".toList <+: x.text ↔ x.a.val = 127
  s10 : "10.".toList <+: x.text ↔ x.a.val = 10
  s192 : "192.168.".toList <+: x.text ↔ x.a.val = 192 ∧ x.b.val = 168
  s169 : "169.254.".toList <+: x.text ↔ x.a.val = 169 ∧ x.b.val = 254

lemma startsV4 (x : Ipv4) : StartsV4 x where
  one heq := x.colon_not_mem_text (heq ▸ by decide)
  zero := ⟨fun heq => Ipv4.text_inj heq, fun heq => heq ▸ rfl⟩
  s127 := x.decimal_prefix_text_iff 127
  s10 := x.decimal_prefix_text_iff 10
  s192 := x.decimal_prefix_text_iff₂ 192 168
  s169 := x.decimal_prefix_text_iff₂ 169 254

lemma privateIp_v4 (x : Ipv4) (h : isIP x.text ≠ 0) : privateIp isIP x.text = true ↔ TakenPrivateV4 x := by
  have hfc : ¬ "fc".toList <+: x.text := not_letter_prefix_text x (by decide) (c := 'f') (by decide) (by decide)
  have hfd : ¬ "fd".toList <+: x.text := not_letter_prefix_text x (by decide) (c := 'f') (by decide) (by decide)
  have hfe : ¬ "fe80:".toList <+: x.text :=
      not_letter_prefix_text x (by decide) (c := 'f') (by decide) (by decide)
  have h172 : (∃ n ∈ match172 x.text, 16 ≤ n ∧ n ≤ 31) ↔ x.a.val = 172 ∧ 16 ≤ x.b.val ∧ x.b.val ≤ 31 := by
    simp only [match172_text, and_assoc, exists_and_left, exists_eq_left']
  have hs := startsV4 x
  rw [privateIp_eq_true h, or_iff_right hs.one, hs.zero, hs.s127, hs.s10, hs.s192, hs.s169, h172,
    or_iff_left (not_or.mpr ⟨hfc, not_or.mpr ⟨hfd, hfe⟩⟩), takenPrivateV4_iff]

/-! ### Version 6 -/

lemma not_dot_prefix_text (x : Ipv6) {l : List Char} (hl : ':' ∉ l) : ¬ l ++ ['.'] <+: x.text := by
  rcases x.text_cases with ⟨rest, htext⟩ | ⟨_, rest, htext⟩
  · rw [htext]
    exact not_prefix_append_cons (dot_not_mem_hexadecimal _) hl (by decide)
  · rw [htext]
    have hnil : ¬ l ++ ['.'] <+: [] ++ ':' :: ':' :: rest :=
      not_prefix_append_cons not_mem_nil hl (by decide)
    exact hnil

lemma hexadecimal_prefix_text_iff (x : Ipv6) (n : ℕ) (hn : 0 < n) :
    hexadecimal n <+: x.text ↔ ∃ k, x.groups.headD 0 / 16 ^ k = n := by
  rcases x.text_cases with ⟨rest, htext⟩ | ⟨hzero, rest, htext⟩
  · rw [htext, prefix_append_cons_iff (colon_not_mem_hexadecimal _)]
    exact toDigits_prefix_iff (by decide) (by decide) hn
  · refine iff_of_false ?_ ?_
    · rintro ⟨t, ht⟩
      exact hexadecimal_append_ne n t _ (ht.trans htext)
    · rintro ⟨k, hk⟩
      rw [hzero, Nat.zero_div] at hk
      exact hn.ne hk

lemma hexadecimal_colon_prefix_text_iff (x : Ipv6) (n : ℕ) (hn : 0 < n) :
    hexadecimal n ++ [':'] <+: x.text ↔ x.groups.headD 0 = n := by
  rcases x.text_cases with ⟨rest, htext⟩ | ⟨hzero, rest, htext⟩
  · rw [htext, append_cons_prefix_iff (colon_not_mem_hexadecimal _) (colon_not_mem_hexadecimal _),
      and_iff_left List.nil_prefix]
    exact ⟨fun h => (hexadecimal_inj h).symm, fun h => congrArg hexadecimal h.symm⟩
  · refine iff_of_false ?_ fun h => hn.ne (hzero.symm.trans h)
    rintro ⟨t, ht⟩
    rw [append_assoc] at ht
    exact hexadecimal_append_ne n _ _ (ht.trans htext)

lemma privateIp_v6 (x : Ipv6) (h : isIP x.text ≠ 0) : privateIp isIP x.text = true ↔ TakenPrivateV6 x := by
  have hzero : x.text ≠ "0.0.0.0".toList := by
    intro heq
    exact not_dot_prefix_text x (l := ['0']) (by decide) (heq ▸ by decide)
  have h127 : ¬ "127.".toList <+: x.text := not_dot_prefix_text x (l := "127".toList) (by decide)
  have h10 : ¬ "10.".toList <+: x.text := not_dot_prefix_text x (l := "10".toList) (by decide)
  have h192 : ¬ "192.168.".toList <+: x.text := not_dot_prefix_text x (l := "192.168".toList) (by decide)
  have h169 : ¬ "169.254.".toList <+: x.text := not_dot_prefix_text x (l := "169.254".toList) (by decide)
  have h172 : ¬ ∃ n ∈ match172 x.text, 16 ≤ n ∧ n ≤ 31 := by
    have hstart : ¬ startsWith x.text "172." = true := fun hstart =>
      not_dot_prefix_text x (l := "172".toList) (by decide) (List.isPrefixOf_iff_prefix.mp hstart)
    rw [match172, if_neg hstart]
    rintro ⟨n, hn, _⟩
    exact Option.not_mem_none n hn
  have hfc : "fc".toList <+: x.text ↔ ∃ k, x.groups.headD 0 / 16 ^ k = 0xfc :=
    hexadecimal_prefix_text_iff x 0xfc (by decide)
  have hfd : "fd".toList <+: x.text ↔ ∃ k, x.groups.headD 0 / 16 ^ k = 0xfd :=
    hexadecimal_prefix_text_iff x 0xfd (by decide)
  have hfe : "fe80:".toList <+: x.text ↔ x.groups.headD 0 = 0xfe80 :=
    hexadecimal_colon_prefix_text_iff x 0xfe80 (by decide)
  rw [privateIp_eq_true h, x.text_eq_loopback_iff, or_iff_right hzero, or_iff_right h127, or_iff_right h10,
    or_iff_right h192, or_iff_right h169, or_iff_right h172, hfc, hfd, hfe, TakenPrivateV6]

lemma exists_div_pow_iff {n m : ℕ} (hn : n < 65536) (hm : 16 ≤ m) :
    (∃ k, n / 16 ^ k = m) ↔ n = m ∨ n / 16 = m ∨ n / 256 = m := by
  constructor
  · rintro ⟨k, hk⟩
    match k with
    | 0 => exact .inl (by rwa [Nat.pow_zero, Nat.div_one] at hk)
    | 1 => exact .inr (Or.inl (by rwa [Nat.pow_one] at hk))
    | 2 => exact .inr (Or.inr hk)
    | k + 3 =>
      have hpow : 16 ^ 3 ≤ 16 ^ (k + 3) := Nat.pow_le_pow_right (by decide) (by omega)
      have hdiv : n / 16 ^ (k + 3) ≤ n / 16 ^ 3 := Nat.div_le_div_left hpow (by decide)
      omega
  · rintro (h | h | h)
    · exact ⟨0, by rwa [Nat.pow_zero, Nat.div_one]⟩
    · exact ⟨1, by rwa [Nat.pow_one]⟩
    · exact ⟨2, h⟩

/-- The local addresses that are not taken for private. -/
def MissedV6 (x : Ipv6) : Prop :=
  x.groups = [0, 0, 0, 0, 0, 0, 0, 0] ∨ (0xfe80 < x.groups.headD 0 ∧ x.groups.headD 0 ≤ 0xfebf) ∨
    ∃ y, LocalV4 y ∧ x = y.mapped

lemma takenPrivateV6_iff (x : Ipv6) : TakenPrivateV6 x ↔ x.groups = [0, 0, 0, 0, 0, 0, 0, 1] ∨
    x.groups.headD 0 = 0xfc ∨ x.groups.headD 0 / 16 = 0xfc ∨ x.groups.headD 0 / 256 = 0xfc ∨
      x.groups.headD 0 = 0xfd ∨ x.groups.headD 0 / 16 = 0xfd ∨ x.groups.headD 0 / 256 = 0xfd ∨
        x.groups.headD 0 = 0xfe80 := by
  have hlt : x.groups.headD 0 < 65536 := by
    obtain ⟨g, groups, hgroups, _⟩ := x.exists_groups
    rw [hgroups]
    exact x.lt_of_mem g (hgroups ▸ mem_cons_self)
  rw [TakenPrivateV6, exists_div_pow_iff hlt (by decide), exists_div_pow_iff hlt (by decide)]
  simp only [or_assoc]

lemma local_of_missed_v6 {x : Ipv6} (h : MissedV6 x) : LocalV6 x := by
  rcases h with h | h | h
  · exact .inl h
  · exact .inr (Or.inr (Or.inr (Or.inl (by omega))))
  · exact .inr (Or.inr (Or.inr (Or.inr h)))

lemma not_taken_of_missed_v6 {x : Ipv6} (h : MissedV6 x) : ¬ TakenPrivateV6 x := by
  rw [takenPrivateV6_iff]
  rcases h with h | h | ⟨y, -, rfl⟩
  · rw [h]
    decide
  · have hone : x.groups ≠ [0, 0, 0, 0, 0, 0, 0, 1] := by
      intro hone
      rw [hone] at h
      exact absurd h.1 (by decide)
    rw [or_iff_right hone]
    omega
  · have hone : y.mapped.groups ≠ [0, 0, 0, 0, 0, 0, 0, 1] := fun hone => by
      cases (congrArg (fun l => l[5]?) hone)
    rw [or_iff_right hone]
    simp [Ipv4.mapped]

lemma taken_of_not_missed_v6 {x : Ipv6} (hlocal : LocalV6 x) (h : ¬ MissedV6 x) : TakenPrivateV6 x := by
  obtain ⟨hzero, hlink, hmapped⟩ : x.groups ≠ [0, 0, 0, 0, 0, 0, 0, 0] ∧
      ¬ (0xfe80 < x.groups.headD 0 ∧ x.groups.headD 0 ≤ 0xfebf) ∧ ¬ ∃ y, LocalV4 y ∧ x = y.mapped := by
    rwa [MissedV6, not_or, not_or] at h
  rw [takenPrivateV6_iff]
  rcases hlocal with hlocal | hlocal | hlocal | hlocal | hlocal
  · exact absurd hlocal hzero
  · exact .inl hlocal
  · right
    omega
  · right
    omega
  · exact absurd hlocal hmapped

/-! ### Both versions -/

/-- The addresses of `0.0.0.0/8` other than the unspecified one. -/
def MissedV4 (x : Ipv4) : Prop := x.a.val = 0 ∧ x ≠ ⟨0, 0, 0, 0⟩

def Missed : IpAddress → Prop
  | .v4 x => MissedV4 x
  | .v6 x => MissedV6 x

lemma privateIp_text (hIP : ∀ x : IpAddress, isIP x.text ≠ 0) (x : IpAddress) :
    privateIp isIP x.text = true ↔ TakenPrivate x := by
  cases x with
  | v4 x => exact privateIp_v4 x (hIP (.v4 x))
  | v6 x => exact privateIp_v6 x (hIP (.v6 x))

variable {x : IpAddress}

lemma local_of_missed (h : Missed x) : Local x := by
  cases x with
  | v4 x => exact .inl h.1
  | v6 x => exact local_of_missed_v6 h

lemma not_taken_of_missed (h : Missed x) : ¬ TakenPrivate x := by
  cases x with
  | v4 x => exact fun htaken => h.2 (htaken.2 h.1)
  | v6 x => exact not_taken_of_missed_v6 h

lemma taken_of_not_missed (hlocal : Local x) (h : ¬ Missed x) : TakenPrivate x := by
  cases x with
  | v4 x => exact ⟨hlocal, fun hzero => of_not_not fun hne => h ⟨hzero, hne⟩⟩
  | v6 x => exact taken_of_not_missed_v6 hlocal h

variable {addresses : List (List Char)}

lemma assertSafeWebhookTarget_eq {cfg : WebhookConfig} {rawUrl protocol hostname : String}
    (hparse : cfg.parseUrl rawUrl = .ok (protocol, hostname))
    (hlookup : cfg.lookupHost hostname = .ok addresses) :
    assertSafeWebhookTarget cfg rawUrl =
      if protocol ≠ "https:" ∧ cfg.allowPrivate = false then .error "Webhook production wajib HTTPS."
      else if cfg.allowPrivate then .ok ()
      else if hostname = "localhost" then .error "Webhook localhost ditolak."
      else if addresses = [] ∨ addresses.any (privateIp cfg.isIP) then
        .error "Webhook target private/local network ditolak."
      else .ok () := by
  rw [assertSafeWebhookTarget, hparse]
  change (if protocol ≠ "https:" ∧ cfg.allowPrivate = false then _ else if cfg.allowPrivate = true then _
    else if hostname = "localhost" then _ else cfg.lookupHost hostname >>= _) = _
  rw [hlookup]
  rfl

lemma assertSafeWebhookTarget_eq_ok {cfg : WebhookConfig} {rawUrl protocol hostname : String}
    (hparse : cfg.parseUrl rawUrl = .ok (protocol, hostname))
    (hlookup : cfg.lookupHost hostname = .ok addresses) :
    assertSafeWebhookTarget cfg rawUrl = .ok () ↔
      cfg.allowPrivate = true ∨ protocol = "https:" ∧ hostname ≠ "localhost" ∧ addresses ≠ [] ∧
        ∀ address ∈ addresses, ¬ privateIp cfg.isIP address = true := by
  rw [assertSafeWebhookTarget_eq hparse hlookup]
  cases cfg.allowPrivate with
  | true =>
    rw [if_neg fun h => Bool.false_ne_true h.2.symm, if_pos rfl]
    exact iff_of_true rfl (Or.inl rfl)
  | false =>
    rw [or_iff_right Bool.false_ne_true, if_neg Bool.false_ne_true]
    split_ifs with hprotocol hlocal haddresses
    · exact iff_of_false (fun h => by cases h) fun h => hprotocol.1 h.1
    · exact iff_of_false (fun h => by cases h) fun h => h.2.1 hlocal
    · refine iff_of_false (fun h => by cases h) fun h => ?_
      rcases haddresses with hnil | hany
      · exact h.2.2.1 hnil
      · obtain ⟨address, hmem, hprivate⟩ := List.any_eq_true.mp hany
        exact h.2.2.2 address hmem hprivate
    · obtain ⟨hne, hnone⟩ := not_or.mp haddresses
      refine iff_of_true rfl ⟨of_not_not fun h => hprotocol ⟨h, rfl⟩, hlocal, hne,
        fun address hmem hprivate => ?_⟩
      exact hnone (List.any_eq_true.mpr ⟨address, hmem, hprivate⟩)

theorem privateIp_iff (cfg : WebhookConfig) (hIP : ∀ x : IpAddress, cfg.isIP x.text ≠ 0) :
    (∀ x : IpAddress, (Local x → privateIp cfg.isIP x.text = true) ↔ ¬ Missed x) ∧
    ∀ rawUrl protocol hostname (addresses : List IpAddress), cfg.parseUrl rawUrl = .ok (protocol, hostname) →
      cfg.lookupHost hostname = .ok (addresses.map IpAddress.text) →
      ((assertSafeWebhookTarget cfg rawUrl = .ok () → ∀ x ∈ addresses, ¬ Local x) ↔
      if cfg.allowPrivate then ∀ x ∈ addresses, ¬ Local x
      else protocol = "https:" → hostname ≠ "localhost" → (∀ x ∈ addresses, ¬ TakenPrivate x) →
        ∀ x ∈ addresses, ¬ Missed x) := by
  constructor
  · intro x
    rw [privateIp_text hIP]
    exact ⟨fun h hmissed => not_taken_of_missed hmissed (h (local_of_missed hmissed)),
      fun h hlocal => taken_of_not_missed hlocal h⟩
  · intro rawUrl protocol hostname addresses hparse hlookup
    rw [assertSafeWebhookTarget_eq_ok hparse hlookup, List.forall_mem_map]
    simp only [privateIp_text hIP]
    cases cfg.allowPrivate with
    | true =>
      rw [if_pos rfl]
      exact ⟨fun h => h (Or.inl rfl), fun h _ => h⟩
    | false =>
      rw [if_neg Bool.false_ne_true, or_iff_right Bool.false_ne_true]
      constructor
      · intro h hprotocol hhost hnone x hx hmissed
        have hne : addresses.map IpAddress.text ≠ [] := fun hnil =>
          absurd (List.map_eq_nil_iff.mp hnil ▸ hx) not_mem_nil
        exact h ⟨hprotocol, hhost, hne, hnone⟩ x hx (local_of_missed hmissed)
      · rintro h ⟨hprotocol, hhost, -, hnone⟩ x hx hlocal
        exact hnone x hx (taken_of_not_missed hlocal (h hprotocol hhost hnone x hx))

def isIPByColon (address : List Char) : ℕ := if ':' ∈ address then 6 else 4

lemma isIPByColon_ne_zero (address : List Char) : isIPByColon address ≠ 0 := by
  unfold isIPByColon
  split_ifs <;> decide

def loopbackConfig : WebhookConfig where
  protectedEnvironment := false
  allowPrivate := false
  signingSecret := none
  isPlaceholder _ := false
  parseUrl _ := .ok ("https:", "hooks")
  lookupHost _ := .ok [(IpAddress.v4 ⟨127, 0, 0, 1⟩).text]
  isIP := isIPByColon
  decryptJson _ := .error "Unsupported state or unable to authenticate data"
  lowercase name := name

theorem privateIp_loopback : privateIp isIPByColon (IpAddress.v4 ⟨127, 0, 0, 1⟩).text = true :=
  ((privateIp_iff loopbackConfig fun x => isIPByColon_ne_zero x.text).1 (.v4 ⟨127, 0, 0, 1⟩)).mpr
    (fun h => absurd h.1 (by decide)) (Or.inr (Or.inl rfl))

def unspecified : Ipv6 := ⟨[0, 0, 0, 0, 0, 0, 0, 0], rfl, by decide⟩

theorem not_privateIp_unspecified :
    Local (.v6 unspecified) ∧ ¬ privateIp isIPByColon (IpAddress.v6 unspecified).text = true :=
  ⟨.inl rfl, by decide⟩

end Mayatoko.Worker
