import SiaSatellite.Spec.Portal

/-!
# The portal page's password check

The page script of the portal (the JavaScript the repository carries after
`satc/walletcmd.go`) checks a password before it posts it: `validatePassword` wants 8 to
255 characters with a lowercase letter, an uppercase letter, a digit and one of
`specialChars`. A JavaScript string is a sequence of UTF-16 code units: `pass.length` counts
units, `pass[i]` is one unit, and a character beyond the Basic Multilingual Plane is two
surrogate units, neither of which is a letter, a digit or a special character. The regular
expressions test ASCII ranges, and `specialChars` holds one-character strings.
-/

namespace SiaSatellite

namespace Portal

/-- The UTF-16 code units of a character. -/
def utf16Units (c : Char) : List ℕ :=
  if c.val.toNat < 0x10000 then [c.val.toNat]
  else [0xD800 + (c.val.toNat - 0x10000) / 0x400, 0xDC00 + (c.val.toNat - 0x10000) % 0x400]

/-- `specialChars`, as the code units of its one-character strings, in its order: backtick,
tilde, `!`, `@`, `#`, `$`, `%`, `^`, `&`, `*`, `(`, `)`, `-`, `_`, `=`, `+`, `[`, `]`, braces,
`;`, `:`, quote, double quote, backslash, `|`, `,`, `.`, `<`, `>`, `/`, `?`. -/
def specialChars : List ℕ :=
  [96, 126, 33, 64, 35, 36, 37, 94, 38, 42, 40, 41, 45, 95, 61, 43, 91, 93, 123, 125, 59, 58,
    39, 34, 92, 124, 44, 46, 60, 62, 47, 63]

/-- The counters `l`, `u`, `d` and `s` of `validatePassword`'s loop. -/
structure Counters where
  l : ℕ
  u : ℕ
  d : ℕ
  s : ℕ
  deriving DecidableEq, Repr

/-- A turn of the loop: each of the four tests that the unit passes counts it. -/
def countUnit (k : Counters) (x : ℕ) : Counters :=
  ⟨if 97 ≤ x ∧ x ≤ 122 then k.l + 1 else k.l,
    if 65 ≤ x ∧ x ≤ 90 then k.u + 1 else k.u,
    if 48 ≤ x ∧ x ≤ 57 then k.d + 1 else k.d,
    if x ∈ specialChars then k.s + 1 else k.s⟩

/-- `validatePassword`. -/
def validatePassword (pass : String) : Bool :=
  let units := pass.toList.flatMap utf16Units
  if units.length < 8 then false
  else if units.length > 255 then false
  else
    let k := units.foldl countUnit ⟨0, 0, 0, 0⟩
    0 < k.l && 0 < k.u && 0 < k.d && 0 < k.s

end Portal

end SiaSatellite
