import SiaSatellite.Spec.Types

/-!
# The portal's account handlers

`portal/routes.go` answers the registration, verification and password reset requests of the
satellite's web portal. `checkEmail` and `checkPassword` validate the fields of a request;
each handler reads and writes the account database through the portal's calls, and answers
with a success or an `Error` and an HTTP status.

The calls the repository does not contain are parameters (`PortalEnv`): the database's
`countEmails`, `isVerified` and `updateAccount`, the three rate checks, `decodeToken`, the mail
server, `mail.ParseAddress`, and the classes of package `unicode` with `strings.ToLower`. They
act on a portal state of parameter type `σ`. A Go string decoded from JSON holds UTF-8, so
`len` is `utf8ByteSize` and `range` walks the characters. The body of a request is what
`prepareDecoder` and `handleDecodeError` make of it: the decoded value, or the answer they
lead to. The HTML templates are constants that parse, so the handlers never take their parse
error branches, which are left out with the logging; the token and the link only go into
the mail's body, which is not modelled.
-/

namespace SiaSatellite

namespace Portal

/-- The `httpError` codes the handlers write, whose values are defined outside this
repository; `none` is `httpErrorNone`, the code of `Error{}`. -/
inductive ErrorCode
  | none
  | internal
  | emailInvalid
  | emailTooLong
  | passwordTooShort
  | passwordTooLong
  | passwordNotCompliant
  | emailUsed
  | tooManyRequests
  | wrongCredentials
  | tokenInvalid
  | tokenExpired
  deriving DecidableEq, Repr

/-- `Error`: the code and the message a handler writes. -/
structure Error where
  code : ErrorCode
  message : String
  deriving DecidableEq, Repr

/-- `Error{}`. -/
def noError : Error := ⟨.none, ""⟩

@[simp] theorem noError_code : noError.code = .none := rfl

/-- What a handler writes: `writeSuccess`, or `writeError` with an error and an HTTP status. -/
inductive Response
  | success
  | error (e : Error) (status : ℕ)
  deriving DecidableEq, Repr

/-- A request as the handlers read it: `req.RemoteAddr`, `req.Header["Referer"]`, and the
body after `prepareDecoder` and `handleDecodeError`. -/
structure Request (α : Type) where
  remoteAddr : String
  referer : List String
  body : Except Response α

/-- `authRequest`. -/
structure AuthRequest where
  email : String
  password : String
  deriving DecidableEq, Repr

/-- The classes of package `unicode` that `checkPassword` tests, and `strings.ToLower`. -/
structure Unicode where
  isNumber : Char → Bool
  isLower : Char → Bool
  isUpper : Char → Bool
  isPunct : Char → Bool
  isSymbol : Char → Bool
  toLower : String → String

/-- `checkEmail`: the address in lowercase, once `mail.ParseAddress` accepts it and it has at
most 48 bytes. -/
def checkEmail (parseAddress : String → Bool) (u : Unicode) (address : String) : String × Error :=
  if !parseAddress address then ("", ⟨.emailInvalid, "the email address is invalid"⟩)
  else if address.utf8ByteSize > 48 then ("", ⟨.emailTooLong, "the email address is too long"⟩)
  else (u.toLower address, noError)

/-- The four flags of `checkPassword`'s loop. -/
structure Classes where
  smalls : Bool
  caps : Bool
  digits : Bool
  specials : Bool
  deriving DecidableEq, Repr

/-- A turn of `checkPassword`'s loop: the `switch` sets the flag of the first case the
character falls in. -/
def classify (u : Unicode) (cl : Classes) (c : Char) : Classes :=
  if u.isNumber c then { cl with digits := true }
  else if u.isLower c then { cl with smalls := true }
  else if u.isUpper c then { cl with caps := true }
  else if u.isPunct c || u.isSymbol c then { cl with specials := true }
  else cl

/-- `checkPassword`: from 8 to 255 bytes, and a character of each of the four cases. -/
def checkPassword (u : Unicode) (pwd : String) : Error :=
  if pwd.utf8ByteSize < 8 then ⟨.passwordTooShort, "the password is too short"⟩
  else if pwd.utf8ByteSize > 255 then ⟨.passwordTooLong, "the password is too long"⟩
  else
    let cl := pwd.toList.foldl (classify u) ⟨false, false, false, false⟩
    if !cl.smalls || !cl.caps || !cl.digits || !cl.specials then
      ⟨.passwordNotCompliant, "insecure password"⟩
    else noError

/-- What the handlers read and call, over the portal state `σ`. -/
structure PortalEnv (σ : Type) where
  /-- Whether `mail.ParseAddress` accepts an address. -/
  parseAddress : String → Bool
  /-- Package `unicode` and `strings.ToLower`. -/
  unicode : Unicode
  /-- `api.portal.countEmails`. -/
  countEmails : String → σ → Except String ℕ
  /-- `api.portal.isVerified`: whether the account is verified, and whether the password is
  its own. -/
  isVerified : String → String → σ → Except String (Bool × Bool)
  /-- `api.portal.updateAccount(email, password, verified)`. -/
  updateAccount : String → String → Bool → σ → Except String Unit × σ
  /-- `api.portal.checkAndUpdateFailedLogins`. -/
  checkAndUpdateFailedLogins : String → σ → Except String Unit × σ
  /-- `api.portal.checkAndUpdateVerifications`. -/
  checkAndUpdateVerifications : String → σ → Except String Unit × σ
  /-- `api.portal.checkAndUpdatePasswordResets`. -/
  checkAndUpdatePasswordResets : String → σ → Except String Unit × σ
  /-- `api.portal.decodeToken`: the token's prefix, email and expiry time. -/
  decodeToken : String → Except String (String × String × ℕ)
  /-- `verifyPrefix`. -/
  verifyPrefix : String
  /-- `resetPrefix`. -/
  resetPrefix : String
  /-- `time.Now()`, on the clock of the expiry times. -/
  now : ℕ
  /-- `api.portal.ms.SendMail("Sia Satellite", to, subject, body)`. -/
  sendMail : String → String → Except String Unit

variable {σ : Type} (E : PortalEnv σ)

/-- The end that `sendVerificationLinkByMail` and `sendPasswordResetLinkByMail` share: the
referer, then the mail; `failure` is the message of a failed mail. -/
def sendLinkByMail {α : Type} (req : Request α) (email subject failure : String) :
    Except Response Unit :=
  match req.referer with
  | [] => .error (.error ⟨.internal, "unable to fetch referer URL"⟩ 500)
  | _ :: _ =>
    match E.sendMail email subject with
    | .error _ => .error (.error ⟨.internal, failure⟩ 500)
    | .ok () => .ok ()

/-- `sendVerificationLinkByMail`: the verification rate check, then the link. -/
def sendVerificationLinkByMail {α : Type} (req : Request α) (email : String) (w : σ) :
    Except Response Unit × σ :=
  match E.checkAndUpdateVerifications req.remoteAddr w with
  | (.error _, w) => (.error (.error ⟨.tooManyRequests, "too many verification requests"⟩ 429), w)
  | (.ok (), w) =>
    (sendLinkByMail E req email "Action Required" "unable to send verification link", w)

/-- `sendPasswordResetLinkByMail`: the link, with no rate check. -/
def sendPasswordResetLinkByMail {α : Type} (req : Request α) (email : String) :
    Except Response Unit :=
  sendLinkByMail E req email "Reset Your Password" "unable to send password reset link"

/-- The error of a failed database query. -/
def internalError : Error := ⟨.internal, "internal error"⟩

/-- The end of `registerHandlerPOST`: send the verification link, then create the account
unless `registeredAndVerified`. -/
def registerAccount (req : Request AuthRequest) (email password : String)
    (registeredAndVerified : Bool) (w : σ) : Response × σ :=
  match sendVerificationLinkByMail E req email w with
  | (.error r, w) => (r, w)
  | (.ok (), w) =>
    if !registeredAndVerified then
      match E.updateAccount email password false w with
      | (.error _, w) => (.error internalError 500, w)
      | (.ok (), w) => (.success, w)
    else (.error ⟨.none, "account not verified yet"⟩ 200, w)

/-- `authHandlerPOST`: a request whose body decodes is answered with success, whatever its
email and password; its check is a `TODO`. -/
def authHandlerPOST (req : Request AuthRequest) (w : σ) : Response × σ :=
  match req.body with
  | .error r => (r, w)
  | .ok _ => (.success, w)

/-- `registerHandlerPOST`: check the fields; look an existing account up with the password,
counting a wrong password as a failed login and refusing a verified account; then
`registerAccount`, with `registeredAndVerified` as the lookup left it. -/
def registerHandlerPOST (req : Request AuthRequest) (w : σ) : Response × σ :=
  match req.body with
  | .error r => (r, w)
  | .ok reg =>
    let (email, err) := checkEmail E.parseAddress E.unicode reg.email
    if err.code ≠ .none then (.error err 400, w)
    else
      let password := reg.password
      let err := checkPassword E.unicode password
      if err.code ≠ .none then (.error err 400, w)
      else
        match E.countEmails email w with
        | .error _ => (.error internalError 500, w)
        | .ok count =>
          if count > 0 then
            match E.isVerified email password w with
            | .error _ => (.error internalError 500, w)
            | .ok (registeredAndVerified, passwordOK) =>
              if !passwordOK then
                match E.checkAndUpdateFailedLogins req.remoteAddr w with
                | (.error _, w) =>
                  (.error ⟨.tooManyRequests, "too many failed login attempts"⟩ 429, w)
                | (.ok (), w) =>
                  (.error ⟨.wrongCredentials, "invalid combination of email and password"⟩ 400, w)
              else if registeredAndVerified then
                (.error ⟨.emailUsed, "email already registered"⟩ 400, w)
              else registerAccount E req email password registeredAndVerified w
          else registerAccount E req email password false w

/-- `registerResendHandlerPOST`: the verification link, to the address the request names. -/
def registerResendHandlerPOST (req : Request String) (w : σ) : Response × σ :=
  match req.body with
  | .error r => (r, w)
  | .ok email =>
    match sendVerificationLinkByMail E req email w with
    | (.error r, w) => (r, w)
    | (.ok (), w) => (.success, w)

/-- `tokenHandlerPOST`: a verification token that has not expired verifies its account; a
reset token is answered with success, its case being a `TODO`. -/
def tokenHandlerPOST (req : Request String) (w : σ) : Response × σ :=
  match req.body with
  | .error r => (r, w)
  | .ok token =>
    match E.decodeToken token with
    | .error _ => (.error ⟨.tokenInvalid, "unable to decode token"⟩ 400, w)
    | .ok (tokenPrefix, email, expires) =>
      if tokenPrefix = E.verifyPrefix then
        if expires < E.now then (.error ⟨.tokenExpired, "link already expired"⟩ 400, w)
        else
          match E.updateAccount email "" true w with
          | (.error _, w) => (.error ⟨.internal, "unable to verify account"⟩ 500, w)
          | (.ok (), w) => (.success, w)
      else if tokenPrefix = E.resetPrefix then (.success, w)
      else (.error ⟨.tokenInvalid, "prefix not supported"⟩ 400, w)

/-- `resetHandlerPOST`: the reset rate check, then the reset link if the account exists, and
success whether it exists or not. -/
def resetHandlerPOST (req : Request String) (w : σ) : Response × σ :=
  match E.checkAndUpdatePasswordResets req.remoteAddr w with
  | (.error _, w) => (.error ⟨.tooManyRequests, "too many password reset requests"⟩ 429, w)
  | (.ok (), w) =>
    match req.body with
    | .error r => (r, w)
    | .ok email =>
      match E.countEmails email w with
      | .error _ => (.error internalError 500, w)
      | .ok count =>
        if count = 0 then (.success, w)
        else
          match sendPasswordResetLinkByMail E req email with
          | .error r => (r, w)
          | .ok () => (.success, w)

end Portal

end SiaSatellite
