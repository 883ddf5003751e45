import SiaSatellite.Spec.Portal

/-!
# The portal's handlers: what they check, and what they write

* `checkPassword_eq_noError`: `checkPassword` accepts exactly the passwords of 8 to 255 bytes
  with a character of each case of its `switch`. The bounds count UTF-8 bytes, so a password of
  five characters can pass.
* `registerHandlerPOST_writes`: registration refuses an invalid email or password with the
  state unchanged, and writes an account only when it is new, or unverified with the same
  password.
* `registerHandlerPOST_not_unverified`: the handler's last branch, "account not verified
  yet", is never taken.
* `resetHandlerPOST_reveals_account`: a reset request changes no account, but without a
  `Referer` header it is answered with 500 for an address that has an account and with
  success for one that has none, so the answer tells whether the account exists.
-/

namespace SiaSatellite

namespace Portal

/-- The case of `checkPassword`'s `switch` a character falls in. -/
inductive CharClass
  | digit
  | small
  | cap
  | special
  | other
  deriving DecidableEq, Repr

/-- The first case of the `switch` that `c` falls in. -/
def Unicode.charClass (u : Unicode) (c : Char) : CharClass :=
  if u.isNumber c then .digit
  else if u.isLower c then .small
  else if u.isUpper c then .cap
  else if u.isPunct c || u.isSymbol c then .special
  else .other

section Password

variable (u : Unicode)

/-- A turn of the loop sets the flag of the character's case. -/
theorem classify_eq (cl : Classes) (c : Char) :
    classify u cl c = ⟨cl.smalls || decide (u.charClass c = .small),
      cl.caps || decide (u.charClass c = .cap), cl.digits || decide (u.charClass c = .digit),
      cl.specials || decide (u.charClass c = .special)⟩ := by
  unfold classify Unicode.charClass
  by_cases h1 : u.isNumber c
  · simp [h1]
  by_cases h2 : u.isLower c
  · simp [h1, h2]
  by_cases h3 : u.isUpper c
  · simp [h1, h2, h3]
  by_cases h4 : (u.isPunct c || u.isSymbol c) <;> simp [h1, h2, h3, h4]

/-- The loop sets a flag exactly when a character of its case occurs. -/
theorem foldl_classify (l : List Char) (cl : Classes) :
    l.foldl (classify u) cl = ⟨cl.smalls || l.any (u.charClass · = .small),
      cl.caps || l.any (u.charClass · = .cap), cl.digits || l.any (u.charClass · = .digit),
      cl.specials || l.any (u.charClass · = .special)⟩ := by
  induction l generalizing cl with
  | nil => simp
  | cons c l ih => simp only [List.foldl_cons, ih, classify_eq, List.any_cons, Bool.or_assoc]

/-- A flag of the loop is the occurrence of a character of its case. -/
theorem any_charClass (l : List Char) (k : CharClass) :
    l.any (u.charClass · = k) = true ↔ ∃ c ∈ l, u.charClass c = k := by
  simp [List.any_eq_true]

/-- **`checkPassword` accepts exactly** the passwords of 8 to 255 bytes with a lowercase
letter, an uppercase letter, a digit and a punctuation mark or symbol, each taken as the first
case of the `switch` it falls in. The bounds count UTF-8 bytes, not characters. -/
theorem checkPassword_eq_noError (pwd : String) :
    checkPassword u pwd = noError ↔ 8 ≤ pwd.utf8ByteSize ∧ pwd.utf8ByteSize ≤ 255 ∧
      (∃ c ∈ pwd.toList, u.charClass c = .small) ∧ (∃ c ∈ pwd.toList, u.charClass c = .cap) ∧
      (∃ c ∈ pwd.toList, u.charClass c = .digit) ∧ (∃ c ∈ pwd.toList, u.charClass c = .special) := by
  unfold checkPassword
  simp only [foldl_classify, Bool.false_or, ← any_charClass]
  by_cases h1 : pwd.utf8ByteSize < 8
  · rw [if_pos h1]
    exact iff_of_false (by simp [noError]) fun h => absurd h.1 (by omega)
  by_cases h2 : pwd.utf8ByteSize > 255
  · rw [if_neg h1, if_pos h2]
    exact iff_of_false (by simp [noError]) fun h => absurd h.2.1 (by omega)
  simp only [if_neg h1, if_neg h2, show 8 ≤ pwd.utf8ByteSize by omega,
    show pwd.utf8ByteSize ≤ 255 by omega, true_and]
  split_ifs with h3
  · simp only [Bool.or_eq_true, Bool.not_eq_true'] at h3
    refine iff_of_false (by simp [noError]) fun ⟨hs, hc, hd, hp⟩ => ?_
    rw [hs, hc, hd, hp] at h3
    simp at h3
  · simp only [Bool.or_eq_true, Bool.not_eq_true', not_or, Bool.not_eq_false] at h3
    exact iff_of_true rfl ⟨h3.1.1.1, h3.1.1.2, h3.1.2, h3.2⟩

end Password

/-- Every error `checkPassword` returns has a password code. -/
theorem checkPassword_code (u : Unicode) (pwd : String) :
    checkPassword u pwd = noError ∨ (checkPassword u pwd).code ∈
      [ErrorCode.passwordTooShort, .passwordTooLong, .passwordNotCompliant] := by
  unfold checkPassword
  dsimp only
  split_ifs <;> simp

section Email

variable (parseAddress : String → Bool) (u : Unicode) (address : String)

/-- `checkEmail` accepts the addresses `mail.ParseAddress` accepts that have at most 48
bytes. -/
theorem checkEmail_eq_noError :
    (checkEmail parseAddress u address).2 = noError ↔
      parseAddress address = true ∧ address.utf8ByteSize ≤ 48 := by
  unfold checkEmail
  by_cases h1 : parseAddress address = true
  · by_cases h2 : address.utf8ByteSize > 48
    · simp [h1, h2, noError]
    · simp [h1, h2]; omega
  · simp [h1, noError]

/-- An address `checkEmail` accepts comes back in lowercase. -/
theorem checkEmail_fst (h : (checkEmail parseAddress u address).2 = noError) :
    (checkEmail parseAddress u address).1 = u.toLower address := by
  obtain ⟨h1, h2⟩ := (checkEmail_eq_noError parseAddress u address).1 h
  simp [checkEmail, h1, show ¬ address.utf8ByteSize > 48 by omega]

/-- Every error `checkEmail` returns has an email code. -/
theorem checkEmail_code :
    (checkEmail parseAddress u address).2 = noError ∨
      (checkEmail parseAddress u address).2.code ∈ [ErrorCode.emailInvalid, .emailTooLong] := by
  unfold checkEmail
  split_ifs <;> simp

end Email

/-- For an error that is `Error{}` or has another code than `httpErrorNone`, the handlers'
test of the code is the test of `Error{}`. -/
theorem code_eq_none_iff {e : Error} {codes : List ErrorCode} (h : e = noError ∨ e.code ∈ codes)
    (hcodes : ErrorCode.none ∉ codes) : e.code = .none ↔ e = noError := by
  rcases h with rfl | h
  · simp [noError]
  · exact iff_of_false (fun he => hcodes (he ▸ h)) (by rintro rfl; exact hcodes h)

section Register

variable {σ : Type} (E : PortalEnv σ)

/-- The end of `registerHandlerPOST` with `registeredAndVerified` false never reports an
unverified account, and leaves the state of the verification rate check or the account
written after it. -/
theorem registerAccount_false (req : Request AuthRequest) (email password : String) (w : σ) :
    (registerAccount E req email password false w).1 ≠
      .error ⟨.none, "account not verified yet"⟩ 200 ∧
    ((registerAccount E req email password false w).2 =
        (E.checkAndUpdateVerifications req.remoteAddr w).2 ∨
      (E.checkAndUpdateVerifications req.remoteAddr w).1 = .ok () ∧
      (registerAccount E req email password false w).2 =
        (E.updateAccount email password false (E.checkAndUpdateVerifications req.remoteAddr w).2).2) := by
  unfold registerAccount sendVerificationLinkByMail sendLinkByMail
  rcases hv : E.checkAndUpdateVerifications req.remoteAddr w with ⟨_ | _, w1⟩
  · simp
  rcases hr : req.referer with _ | ⟨p, ps⟩
  · simp
  cases hm : E.sendMail email "Action Required"
  · simp
  rcases hu : E.updateAccount email password false w1 with ⟨_ | _, w2⟩ <;> simp [hu, internalError]

/-- What `registerHandlerPOST` does with a request that decodes: refuse an invalid email, then
an invalid password, with the state unchanged; fail a query; refuse a verified account; count
a wrong password as a failed login; or, for a new account or an unverified one with this
password, end in `registerAccount`. -/
theorem registerHandlerPOST_cases {req : Request AuthRequest} {reg : AuthRequest}
    (hbody : req.body = .ok reg) {email : String} {err : Error}
    (hce : checkEmail E.parseAddress E.unicode reg.email = (email, err)) (w : σ) :
    err ≠ noError ∧ registerHandlerPOST E req w = (.error err 400, w) ∨
    err = noError ∧ checkPassword E.unicode reg.password ≠ noError ∧
      registerHandlerPOST E req w = (.error (checkPassword E.unicode reg.password) 400, w) ∨
    err = noError ∧ checkPassword E.unicode reg.password = noError ∧
      (registerHandlerPOST E req w = (.error internalError 500, w) ∨
        registerHandlerPOST E req w = (.error ⟨.emailUsed, "email already registered"⟩ 400, w) ∨
        (registerHandlerPOST E req w).2 = (E.checkAndUpdateFailedLogins req.remoteAddr w).2 ∧
          ((registerHandlerPOST E req w).1 =
              .error ⟨.tooManyRequests, "too many failed login attempts"⟩ 429 ∨
            (registerHandlerPOST E req w).1 =
              .error ⟨.wrongCredentials, "invalid combination of email and password"⟩ 400) ∨
        (E.countEmails email w = .ok 0 ∨ E.isVerified email reg.password w = .ok (false, true)) ∧
          registerHandlerPOST E req w = registerAccount E req email reg.password false w) := by
  have hec : err.code = .none ↔ err = noError :=
    code_eq_none_iff (hce ▸ checkEmail_code E.parseAddress E.unicode reg.email) (by decide)
  have hpc := code_eq_none_iff (checkPassword_code E.unicode reg.password) (by decide)
  unfold registerHandlerPOST
  simp only [hbody, hce]
  by_cases he : err = noError
  swap
  · exact .inl ⟨he, by simp [hec, he]⟩
  subst he
  by_cases hp : checkPassword E.unicode reg.password = noError
  swap
  · exact .inr (.inl ⟨rfl, hp, by simp [hpc, hp]⟩)
  refine .inr (.inr ⟨rfl, hp, ?_⟩)
  simp only [hp, noError_code, ne_eq, not_true_eq_false, if_false]
  rcases hc : E.countEmails email w with _ | _ | n
  · exact .inl rfl
  · exact .inr (.inr (.inr ⟨.inl rfl, by simp⟩))
  simp only [gt_iff_lt, Nat.succ_pos, if_true]
  rcases hv : E.isVerified email reg.password w with _ | ⟨_ | _, _ | _⟩
  · exact .inl rfl
  · rcases hf : E.checkAndUpdateFailedLogins req.remoteAddr w with ⟨_ | _, w1⟩ <;> simp
  · exact .inr (.inr (.inr ⟨.inr rfl, by simp⟩))
  · rcases hf : E.checkAndUpdateFailedLogins req.remoteAddr w with ⟨_ | _, w1⟩ <;> simp
  · exact .inr (.inl rfl)

/-- **`registerHandlerPOST` checks before it writes, and writes only a new or unverified
account.** For a request that decodes, an invalid email, then an invalid password, is refused
with its error and the state unchanged. Otherwise the state afterwards is the state before,
or the one the failed-login or verification rate check left, unless the email passes
`checkEmail`, the password passes `checkPassword`, the account of the lowercased email does
not exist or is unverified with this password, and the verification rate check passed:
then it is the one `updateAccount` leaves, writing the account unverified with the password. -/
theorem registerHandlerPOST_writes {req : Request AuthRequest} {reg : AuthRequest}
    (hbody : req.body = .ok reg) (w : σ) :
    ((checkEmail E.parseAddress E.unicode reg.email).2 ≠ noError →
      registerHandlerPOST E req w = (.error (checkEmail E.parseAddress E.unicode reg.email).2 400, w)) ∧
    ((checkEmail E.parseAddress E.unicode reg.email).2 = noError →
      checkPassword E.unicode reg.password ≠ noError →
      registerHandlerPOST E req w = (.error (checkPassword E.unicode reg.password) 400, w)) ∧
    ((registerHandlerPOST E req w).2 = w ∨
      (registerHandlerPOST E req w).2 = (E.checkAndUpdateFailedLogins req.remoteAddr w).2 ∨
      (registerHandlerPOST E req w).2 = (E.checkAndUpdateVerifications req.remoteAddr w).2 ∨
      (E.parseAddress reg.email = true ∧ reg.email.utf8ByteSize ≤ 48) ∧
      checkPassword E.unicode reg.password = noError ∧
      (E.countEmails (E.unicode.toLower reg.email) w = .ok 0 ∨
        E.isVerified (E.unicode.toLower reg.email) reg.password w = .ok (false, true)) ∧
      (E.checkAndUpdateVerifications req.remoteAddr w).1 = .ok () ∧
      (registerHandlerPOST E req w).2 = (E.updateAccount (E.unicode.toLower reg.email) reg.password
        false (E.checkAndUpdateVerifications req.remoteAddr w).2).2) := by
  have hcases := registerHandlerPOST_cases E hbody Prod.mk.eta.symm w
  refine ⟨fun he => ?_, fun he hp => ?_, ?_⟩
  · rcases hcases with ⟨-, h⟩ | ⟨he', -⟩ | ⟨he', -⟩
    exacts [h, absurd he' he, absurd he' he]
  · rcases hcases with ⟨he', -⟩ | ⟨-, -, h⟩ | ⟨-, hp', -⟩
    exacts [absurd he he', h, absurd hp' hp]
  rcases hcases with ⟨-, h⟩ | ⟨-, -, h⟩ | ⟨he, hp, h | h | ⟨h, -⟩ | ⟨hacc, h⟩⟩
  · exact .inl (by rw [h])
  · exact .inl (by rw [h])
  · exact .inl (by rw [h])
  · exact .inl (by rw [h])
  · exact .inr (.inl h)
  rw [h, ← checkEmail_fst E.parseAddress E.unicode reg.email he]
  rcases (registerAccount_false E req _ reg.password w).2 with h' | ⟨hv, h'⟩
  · exact .inr (.inr (.inl h'))
  · exact .inr (.inr (.inr ⟨(checkEmail_eq_noError _ _ _).1 he, hp, hacc, hv, h'⟩))

/-- **`registerHandlerPOST` never reports an unverified account.** Its last branch,
"account not verified yet", needs `registeredAndVerified`, and a verified account was refused
as already registered before the link is sent. -/
theorem registerHandlerPOST_not_unverified {req : Request AuthRequest} {reg : AuthRequest}
    (hbody : req.body = .ok reg) (w : σ) :
    (registerHandlerPOST E req w).1 ≠ .error ⟨.none, "account not verified yet"⟩ 200 := by
  rcases registerHandlerPOST_cases E hbody Prod.mk.eta.symm w with
    ⟨-, h⟩ | ⟨-, -, h⟩ | ⟨-, -, h | h | ⟨-, h | h⟩ | ⟨-, h⟩⟩ <;> rw [h]
  all_goals first | exact (registerAccount_false E req _ _ w).1 | simp

end Register

section Reset

variable {σ : Type} (E : PortalEnv σ)

theorem sendPasswordResetLinkByMail_no_referer {α : Type} {req : Request α} (email : String)
    (h : req.referer = []) :
    sendPasswordResetLinkByMail E req email =
      .error (.error ⟨.internal, "unable to fetch referer URL"⟩ 500) := by
  simp only [sendPasswordResetLinkByMail, sendLinkByMail, h]

/-- A reset changes no account: the state afterwards is the one its rate check left. -/
theorem resetHandlerPOST_state (req : Request String) (w : σ) :
    (resetHandlerPOST E req w).2 = (E.checkAndUpdatePasswordResets req.remoteAddr w).2 := by
  unfold resetHandlerPOST
  rcases E.checkAndUpdatePasswordResets req.remoteAddr w with ⟨_ | ⟨⟩, w1⟩
  · rfl
  rcases req.body with r | email
  · rfl
  dsimp only
  rcases E.countEmails email w1 with _ | n
  · rfl
  dsimp only
  split_ifs
  · rfl
  · cases sendPasswordResetLinkByMail E req email <;> rfl

/-- **A reset request without a `Referer` tells whether the address has an account.** A reset
changes no account. Once its rate check passes, its body decodes and the count query answers
`n`, a request with no `Referer` header is answered with success when the address has no
account, as the handler's comment intends so as to give no hint, but with 500 "unable to fetch
referer URL" when it has one: the link is built only for an existing account, and building it
reads the header. -/
theorem resetHandlerPOST_reveals_account (req : Request String) (w : σ) :
    (resetHandlerPOST E req w).2 = (E.checkAndUpdatePasswordResets req.remoteAddr w).2 ∧
    ∀ email n, req.body = .ok email →
      (E.checkAndUpdatePasswordResets req.remoteAddr w).1 = .ok () →
      E.countEmails email (E.checkAndUpdatePasswordResets req.remoteAddr w).2 = .ok n →
      req.referer = [] →
      (resetHandlerPOST E req w).1 =
        if n = 0 then .success else .error ⟨.internal, "unable to fetch referer URL"⟩ 500 := by
  refine ⟨resetHandlerPOST_state E req w, fun email n hb hr hc href => ?_⟩
  unfold resetHandlerPOST
  rcases hrw : E.checkAndUpdatePasswordResets req.remoteAddr w with ⟨_ | ⟨⟩, w1⟩
  · rw [hrw] at hr; cases hr
  rw [hrw] at hc
  simp only [hb, hc]
  split_ifs
  · rfl
  · rw [sendPasswordResetLinkByMail_no_referer E email href]

end Reset

/-- Classes that agree with package `unicode` on the ASCII letters and digits, on `!`, `.` and
`?`, and on the euro sign, a symbol. -/
def demoUnicode : Unicode where
  isNumber := Char.isDigit
  isLower := Char.isLower
  isUpper := Char.isUpper
  isPunct c := c ∈ ['!', '.', '?']
  isSymbol c := c = '€'
  toLower s := ⟨s.toList.map Char.toLower⟩

/-- A password of five characters and nine bytes passes. -/
theorem checkPassword_eq_noError_five :
    checkPassword demoUnicode "aA1€€" = noError ∧ "aA1€€".length = 5 :=
  ⟨(checkPassword_eq_noError demoUnicode "aA1€€").2 (by decide), by decide⟩

/-- A portal whose state is its accounts, as email, password and whether verified, newest
first; its rate checks and mail always pass, an address parses when it has an `@`, and tokens
`v` and `r` are a verification and a reset token for `bob@x.com` of expiry 10, at time 20. -/
def demoPortal : PortalEnv (List (String × String × Bool)) where
  parseAddress a := '@' ∈ a.toList
  unicode := demoUnicode
  countEmails e w := .ok (w.countP (·.1 = e))
  isVerified e p w := match w.find? (·.1 = e) with
    | some (_, q, v) => .ok (v, q = p)
    | none => .ok (false, false)
  updateAccount e p v w := (.ok (), (e, p, v) :: w.filter (·.1 ≠ e))
  checkAndUpdateFailedLogins _ w := (.ok (), w)
  checkAndUpdateVerifications _ w := (.ok (), w)
  checkAndUpdatePasswordResets _ w := (.ok (), w)
  decodeToken t := if t = "v" then .ok ("verify", "bob@x.com", 10)
    else if t = "r" then .ok ("reset", "bob@x.com", 10) else .error "invalid token"
  verifyPrefix := "verify"
  resetPrefix := "reset"
  now := 20
  sendMail _ _ := .ok ()

/-- A registration of `Bob@x.com` with password `pwd`. -/
def demoRegistration (pwd : String) : Request AuthRequest := ⟨"10.0.0.1", ["https://portal"], .ok ⟨"Bob@x.com", pwd⟩⟩

/-- A weak password is refused with its error and the accounts unchanged; a good one creates
the account of `bob@x.com`. -/
theorem registerHandlerPOST_writes_demo :
    registerHandlerPOST demoPortal (demoRegistration "aaaaaaaa") [] =
      (.error ⟨.passwordNotCompliant, "insecure password"⟩ 400, []) ∧
    (registerHandlerPOST demoPortal (demoRegistration "aA1!aaaa") []).2 =
      [("bob@x.com", "aA1!aaaa", false)] := by
  refine ⟨?_, rfl⟩
  rw [(registerHandlerPOST_writes demoPortal rfl []).2.1 (by decide) (by decide)]
  rfl

/-- Registering again an unverified account with its password sends a new link and answers
success. -/
theorem registerHandlerPOST_not_unverified_demo :
    registerHandlerPOST demoPortal (demoRegistration "aA1!aaaa") [("bob@x.com", "aA1!aaaa", false)] =
      (.success, [("bob@x.com", "aA1!aaaa", false)]) ∧
    (registerHandlerPOST demoPortal (demoRegistration "aA1!aaaa")
      [("bob@x.com", "aA1!aaaa", false)]).1 ≠ .error ⟨.none, "account not verified yet"⟩ 200 :=
  ⟨rfl, registerHandlerPOST_not_unverified demoPortal rfl _⟩

/-- Without a `Referer`, a reset for an address with no account answers success, and one for
an address with an account answers 500. -/
theorem resetHandlerPOST_reveals_account_demo :
    (resetHandlerPOST demoPortal ⟨"10.0.0.1", [], .ok "bob@x.com"⟩ []).1 = .success ∧
    (resetHandlerPOST demoPortal ⟨"10.0.0.1", [], .ok "bob@x.com"⟩
      [("bob@x.com", "aA1!aaaa", true)]).1 = .error ⟨.internal, "unable to fetch referer URL"⟩ 500 :=
  ⟨(resetHandlerPOST_reveals_account demoPortal _ _).2 "bob@x.com" 0 rfl rfl rfl rfl,
    (resetHandlerPOST_reveals_account demoPortal _ _).2 "bob@x.com" 1 rfl rfl rfl rfl⟩

end Portal

end SiaSatellite
