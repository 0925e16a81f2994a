import WeatherNotify.Auth.Sessions

/-!
# What sessions rely on from the libraries

A signed token decodes to exactly what was signed, and two tokens never share
a fingerprint.  The second half is an instance that computes: a token is the
plain list of its claims, each behind its length.
-/

namespace WeatherNotify.Auth

/-- The assumptions on signing and hashing. -/
structure Crypto.Sound (crypto : Crypto) : Prop where
  decoded : ∀ payload exp,
    crypto.decodeRefresh (crypto.signRefresh payload exp) =
      some (payload, exp)
  fingerprint : Function.Injective crypto.hashToken

namespace PlainToken

/-! ## Claims as text -/

/-- A text behind its length in unary. -/
def framed (text : List Char) : List Char :=
  List.replicate text.length '+' ++ '.' :: text

/-- Split off the first framed text. -/
def unframed (chars : List Char) : Option (List Char × List Char) :=
  match chars.dropWhile (· == '+') with
  | '.' :: rest =>
      let size := (chars.takeWhile (· == '+')).length
      some (rest.take size, rest.drop size)
  | _ => none

theorem unframed_framed (text rest : List Char) :
    unframed (framed text ++ rest) = some (text, rest) := by
  have skipped : ∀ (count : Nat) (tail : List Char),
      (List.replicate count '+' ++ '.' :: tail).dropWhile (· == '+') =
        '.' :: tail := by
    intro count tail
    rw [List.dropWhile_append_of_pos] <;> simp
  have counted : ∀ (count : Nat) (tail : List Char),
      (List.replicate count '+' ++ '.' :: tail).takeWhile (· == '+') =
        List.replicate count '+' := by
    intro count tail
    rw [List.takeWhile_append_of_pos] <;> simp
  simp [unframed, framed, List.append_assoc, skipped, counted]

def encode (fields : List (List Char)) : String :=
  String.ofList (fields.flatMap framed)

def unframedFields : Nat → List Char → Option (List (List Char))
  | 0, _ => some []
  | count + 1, chars =>
      match unframed chars with
      | some (field, rest) =>
          (unframedFields count rest).map (field :: ·)
      | none => none

def decode (count : Nat) (token : String) : Option (List (List Char)) :=
  unframedFields count token.toList

theorem decode_encode (fields : List (List Char)) :
    decode fields.length (encode fields) = some fields := by
  rw [decode, encode, String.toList_ofList]
  induction fields with
  | nil => rfl
  | cons field rest induction =>
      rw [List.flatMap_cons, List.length_cons, unframedFields,
        unframed_framed]
      simp only [induction, Option.map_some]

/-- Expiries in unary, with a sign. -/
def expiryText : Int → List Char
  | .ofNat seconds => List.replicate seconds '1'
  | .negSucc seconds => '-' :: List.replicate seconds '1'

def expiryOf : List Char → Int
  | '-' :: digits => .negSucc digits.length
  | digits => .ofNat digits.length

theorem expiryOf_expiryText (exp : Int) : expiryOf (expiryText exp) = exp := by
  cases exp with
  | negSucc seconds => simp [expiryText, expiryOf]
  | ofNat seconds =>
      cases seconds with
      | zero => rfl
      | succ rest => simp [expiryText, expiryOf, List.replicate_succ]

/-! ## Refresh tokens -/

def emailText : Option String → List Char
  | none => []
  | some email => '=' :: email.toList

def emailOf : List Char → Option String
  | [] => none
  | _ :: email => some (String.ofList email)

def signRefresh (payload : RefreshPayload) (exp : Int) : String :=
  encode [payload.sub.toList, emailText payload.email, payload.jti.toList,
    expiryText exp]

def decodeRefresh (token : String) : Option (RefreshPayload × Int) :=
  match decode 4 token with
  | some [sub, email, jti, exp] =>
      some (⟨String.ofList sub, emailOf email, String.ofList jti⟩,
        expiryOf exp)
  | _ => none

theorem decodeRefresh_signRefresh (payload : RefreshPayload) (exp : Int) :
    decodeRefresh (signRefresh payload exp) = some (payload, exp) := by
  obtain ⟨sub, email, jti⟩ := payload
  have email' : emailOf (emailText email) = email := by
    cases email <;> simp [emailText, emailOf]
  have fields := decode_encode
    [sub.toList, emailText email, jti.toList, expiryText exp]
  simp only [List.length_cons, List.length_nil] at fields
  simp only [decodeRefresh, signRefresh, fields, email',
    expiryOf_expiryText, String.ofList_toList]

/-! ## Access tokens -/

def roleText : Role → List Char
  | .user => []
  | .admin => ['A']

def roleOf : List Char → Role
  | [] => .user
  | _ :: _ => .admin

def signAccess (payload : AccessPayload) (exp : Int) : String :=
  encode [payload.sub.toList, payload.email.toList, roleText payload.role,
    expiryText exp]

def decodeAccess (token : String) : Option (AccessPayload × Int) :=
  match decode 4 token with
  | some [sub, email, role, exp] =>
      some (⟨String.ofList sub, String.ofList email, roleOf role⟩,
        expiryOf exp)
  | _ => none

theorem decodeAccess_signAccess (payload : AccessPayload) (exp : Int) :
    decodeAccess (signAccess payload exp) = some (payload, exp) := by
  obtain ⟨sub, email, role⟩ := payload
  have role' : roleOf (roleText role) = role := by cases role <;> rfl
  have fields := decode_encode
    [sub.toList, email.toList, roleText role, expiryText exp]
  simp only [List.length_cons, List.length_nil] at fields
  simp only [decodeAccess, signAccess, fields, role', expiryOf_expiryText,
    String.ofList_toList]

end PlainToken

/-- Plain tokens, each its own fingerprint; a password is its own hash. -/
def plainTokens : Crypto where
  signAccess := PlainToken.signAccess
  signRefresh := PlainToken.signRefresh
  decodeRefresh := PlainToken.decodeRefresh
  hashToken token := token
  comparePassword password hash := password == hash

theorem plainTokens_sound : plainTokens.Sound where
  decoded payload exp := by
    simp only [plainTokens, PlainToken.decodeRefresh_signRefresh]
  fingerprint := Function.injective_id

end WeatherNotify.Auth
