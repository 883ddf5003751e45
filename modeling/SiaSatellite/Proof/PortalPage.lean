import SiaSatellite.Spec.PortalPage
import SiaSatellite.Proof.Portal

/-!
# The page's password check against the server's

The portal checks a password twice: on the page before it is posted (`validatePassword`) and
on the server (`checkPassword`). On ASCII the two agree, provided the classes of package
`unicode` are the ASCII ones there (`Unicode.ASCII`, which Go's tables satisfy).

* `validatePassword_agrees`: **for every ASCII password, the page accepts it exactly when the
  server does.** Outside ASCII they part: the page counts UTF-16 units where the server counts
  UTF-8 bytes, and knows only ASCII letters, digits and specials where the server asks
  package `unicode`.
-/

namespace SiaSatellite

namespace Portal

/-- The classes of package `unicode` on ASCII: digits, lowercase and uppercase letters, and
for punctuation and symbols the characters of `specialChars`. -/
structure Unicode.ASCII (u : Unicode) : Prop where
  number : ∀ c : Char, c.val.toNat < 128 →
    (u.isNumber c = true ↔ 48 ≤ c.val.toNat ∧ c.val.toNat ≤ 57)
  lower : ∀ c : Char, c.val.toNat < 128 →
    (u.isLower c = true ↔ 97 ≤ c.val.toNat ∧ c.val.toNat ≤ 122)
  upper : ∀ c : Char, c.val.toNat < 128 →
    (u.isUpper c = true ↔ 65 ≤ c.val.toNat ∧ c.val.toNat ≤ 90)
  punctSymbol : ∀ c : Char, c.val.toNat < 128 →
    ((u.isPunct c || u.isSymbol c) = true ↔ c.val.toNat ∈ specialChars)

/-- The loop counts the units that pass each test. -/
theorem foldl_countUnit (units : List ℕ) (k : Counters) :
    units.foldl countUnit k =
      ⟨k.l + units.countP (fun x => 97 ≤ x ∧ x ≤ 122),
        k.u + units.countP (fun x => 65 ≤ x ∧ x ≤ 90),
        k.d + units.countP (fun x => 48 ≤ x ∧ x ≤ 57),
        k.s + units.countP (fun x => x ∈ specialChars)⟩ := by
  induction units generalizing k with
  | nil => rfl
  | cons x units ih =>
    rw [List.foldl_cons, ih]
    simp only [countUnit, List.countP_cons, decide_eq_true_eq]
    congr 1 <;> split_ifs <;> omega

/-- An ASCII character is one UTF-16 unit. -/
theorem utf16Units_ascii {c : Char} (h : c.val.toNat < 128) : utf16Units c = [c.val.toNat] :=
  if_pos (by omega)

/-- An ASCII string has as many UTF-8 bytes as characters. -/
theorem utf8ByteSize_ascii (l : List Char) (h : ∀ c ∈ l, c.val.toNat < 128) :
    String.utf8ByteSize ⟨l⟩ = l.length := by
  induction l with
  | nil => rfl
  | cons c l ih =>
    have hc : c.utf8Size = 1 := if_pos (show c.val.toNat ≤ 127 by
      have := h c (List.mem_cons_self _ _); omega)
    show String.utf8ByteSize.go l + c.utf8Size = _
    rw [hc, List.length_cons, ← ih fun c hc => h c (List.mem_cons_of_mem _ hc)]
    rfl

/-- A flag of the server's loop over an ASCII password is a positive count of the page's. -/
theorem any_charClass_ascii {u : Unicode} {l : List Char} (hl : ∀ c ∈ l, c.val.toNat < 128) {k : CharClass}
    {p : ℕ → Prop} [DecidablePred p]
    (hk : ∀ c : Char, c.val.toNat < 128 → (u.charClass c = k ↔ p c.val.toNat)) :
    l.any (u.charClass · = k) = decide (0 < (l.map (·.val.toNat)).countP fun x => p x) := by
  rw [Bool.eq_iff_iff, any_charClass, decide_eq_true_iff, List.countP_pos_iff]
  simp only [List.mem_map, exists_exists_and_eq_and, decide_eq_true_eq]
  exact exists_congr fun c => and_congr_right fun hc => hk c (hl c hc)

/-- The last test of `checkPassword` passes exactly when all four flags are set. -/
theorem all_flags_iff {a b c d : Bool} {e : Error} (he : e ≠ noError) :
    (a && b && c && d) = true ↔ (if (!a || !b || !c || !d) = true then e else noError) = noError := by
  cases a <;> cases b <;> cases c <;> cases d <;> simp [he]

section ASCII

variable {u : Unicode} (hu : u.ASCII)
include hu

/-- The case of the server's `switch` an ASCII character falls in is its ASCII class. -/
theorem charClass_ascii {c : Char} (h : c.val.toNat < 128) :
    (u.charClass c = .small ↔ 97 ≤ c.val.toNat ∧ c.val.toNat ≤ 122) ∧
    (u.charClass c = .cap ↔ 65 ≤ c.val.toNat ∧ c.val.toNat ≤ 90) ∧
    (u.charClass c = .digit ↔ 48 ≤ c.val.toNat ∧ c.val.toNat ≤ 57) ∧
    (u.charClass c = .special ↔ c.val.toNat ∈ specialChars) := by
  have hn := hu.number c h
  have hl := hu.lower c h
  have hup := hu.upper c h
  have hp := hu.punctSymbol c h
  have hsp : c.val.toNat ∈ specialChars →
      ¬(48 ≤ c.val.toNat ∧ c.val.toNat ≤ 57) ∧ ¬(97 ≤ c.val.toNat ∧ c.val.toNat ≤ 122) ∧
        ¬(65 ≤ c.val.toNat ∧ c.val.toNat ≤ 90) := by
    generalize c.val.toNat = v
    simp only [specialChars, List.mem_cons, List.mem_nil_iff, or_false]
    rintro (rfl | rfl | rfl | rfl | rfl | rfl | rfl | rfl | rfl | rfl | rfl | rfl | rfl | rfl |
      rfl | rfl | rfl | rfl | rfl | rfl | rfl | rfl | rfl | rfl | rfl | rfl | rfl | rfl | rfl |
      rfl | rfl | rfl) <;> omega
  unfold Unicode.charClass
  by_cases h1 : u.isNumber c
  · simp only [h1, if_true, reduceCtorEq, false_iff, true_iff] at hn ⊢
    exact ⟨by omega, by omega, hn, fun hs => (hsp hs).1 hn⟩
  by_cases h2 : u.isLower c
  · simp only [h1, h2, if_true, if_false, reduceCtorEq, false_iff, true_iff,
      Bool.false_eq_true] at hn hl ⊢
    exact ⟨hl, by omega, hn, fun hs => (hsp hs).2.1 hl⟩
  by_cases h3 : u.isUpper c
  · simp only [h1, h2, h3, if_true, if_false, reduceCtorEq, false_iff, true_iff,
      Bool.false_eq_true] at hn hl hup ⊢
    exact ⟨hl, hup, hn, fun hs => (hsp hs).2.2 hup⟩
  simp only [h1, h2, h3, if_false, Bool.false_eq_true, false_iff] at hn hl hup ⊢
  by_cases h4 : (u.isPunct c || u.isSymbol c) = true
  · simp only [h4, if_true, reduceCtorEq, false_iff, true_iff] at hp ⊢
    exact ⟨hl, hup, hn, hp⟩
  · simp only [h4, if_false, reduceCtorEq, false_iff, Bool.false_eq_true] at hp ⊢
    exact ⟨hl, hup, hn, hp⟩

/-- **The page accepts an ASCII password exactly when the server does.** -/
theorem validatePassword_agrees (pwd : String) (hascii : ∀ c ∈ pwd.toList, c.val.toNat < 128) :
    validatePassword pwd = true ↔ checkPassword u pwd = noError := by
  obtain ⟨l⟩ := pwd
  change ∀ c ∈ l, c.val.toNat < 128 at hascii
  have hunits : l.flatMap utf16Units = l.map (·.val.toNat) := by
    rw [List.map_eq_flatMap]
    exact List.flatMap_congr fun c hc => utf16Units_ascii (hascii c hc)
  have hs := any_charClass_ascii (p := fun x => 97 ≤ x ∧ x ≤ 122) hascii
    fun c h => (charClass_ascii hu h).1
  have hc := any_charClass_ascii (p := fun x => 65 ≤ x ∧ x ≤ 90) hascii
    fun c h => (charClass_ascii hu h).2.1
  have hd := any_charClass_ascii (p := fun x => 48 ≤ x ∧ x ≤ 57) hascii
    fun c h => (charClass_ascii hu h).2.2.1
  have hp := any_charClass_ascii (p := fun x => x ∈ specialChars) hascii
    fun c h => (charClass_ascii hu h).2.2.2
  unfold validatePassword checkPassword
  simp only [String.toList, hunits, List.length_map, utf8ByteSize_ascii l hascii,
    foldl_countUnit, foldl_classify, hs, hc, hd, hp, Bool.false_or, zero_add]
  by_cases h1 : l.length < 8
  · simp [h1, noError]
  by_cases h2 : l.length > 255
  · simp [h1, h2, noError]
  simp only [if_neg h1, if_neg h2]
  exact all_flags_iff (by decide)

end ASCII

/-- The classes of package `unicode` restricted to ASCII, with no letters beyond it. -/
def asciiUnicode : Unicode where
  isNumber c := decide (48 ≤ c.val.toNat ∧ c.val.toNat ≤ 57)
  isLower c := decide (97 ≤ c.val.toNat ∧ c.val.toNat ≤ 122)
  isUpper c := decide (65 ≤ c.val.toNat ∧ c.val.toNat ≤ 90)
  isPunct c := decide (c.val.toNat ∈ specialChars)
  isSymbol _ := false
  toLower s := s

/-- The page and the server both accept `Passw0rd!`. -/
theorem validatePassword_agrees_demo :
    asciiUnicode.ASCII ∧ (∀ c ∈ "Passw0rd!".toList, c.val.toNat < 128) ∧
      (validatePassword "Passw0rd!" = true ↔ checkPassword asciiUnicode "Passw0rd!" = noError) := by
  have hu : asciiUnicode.ASCII :=
    ⟨fun c _ => by simp [asciiUnicode], fun c _ => by simp [asciiUnicode],
      fun c _ => by simp [asciiUnicode], fun c _ => by simp [asciiUnicode]⟩
  exact ⟨hu, by decide, validatePassword_agrees hu "Passw0rd!" (by decide)⟩

/-- Beyond ASCII the page counts UTF-16 units: it accepts `aA1!` followed by 84 euro signs,
88 units, which the server refuses as 256 bytes. -/
example :
    validatePassword ⟨"aA1!".toList ++ List.replicate 84 '€'⟩ = true ∧
      checkPassword asciiUnicode ⟨"aA1!".toList ++ List.replicate 84 '€'⟩ =
        ⟨.passwordTooLong, "the password is too long"⟩ := by
  decide

end Portal

end SiaSatellite
