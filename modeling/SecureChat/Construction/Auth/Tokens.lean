/-
This file issues the tokens of a session and validates them.
-/

import SecureChat.Library.Text
import SecureChat.Library.Machine

namespace SecureChat.Auth
open Library

def authMaxLoginAttempts : UInt32 := 5
def authLockoutDuration : Int := 300
def authSessionTimeout : Int := 3600
def authRefreshTokenLifetime : Int := 604800
def authTokenLength : Nat := 64

abbrev Text := List Char

inductive AuthCode where
  | success
  | invalidCredentials
  | accountLocked
  | accountDisabled
  | invalidToken
  | tokenExpired
  | rateLimitExceeded
  deriving DecidableEq, Repr

/-- A reading of the clock. The lifetimes can be added to it without overflow. -/
structure Time where
  seconds : Int
  lower : -2 ^ 62 ≤ seconds
  upper : seconds < 2 ^ 62
  deriving DecidableEq

/-- HMAC-SHA256 with the derived key, and PBKDF2 with its fixed number of rounds. -/
structure Crypto where
  hmac : Text → Vector UInt8 32
  pbkdf2 : Text → List UInt8 → Option (List UInt8)

/-- A row of the sessions. The last field is no column: it keeps the clock that the refresh token has read. -/
structure SessionRow where
  id : Nat
  userId : UInt64
  accessToken : Text
  refreshToken : Text
  clientIp : Text
  createdAt : Int
  expiresAt : Int
  refreshExpiresAt : Int
  isValid : Bool
  refreshNow : Time
  deriving DecidableEq

structure UserRow where
  id : UInt64
  username : Text
  email : Text
  passwordHash : List UInt8
  passwordSalt : List UInt8
  loginAttempts : UInt32
  lastLoginAttempt : Int
  accountLockedUntil : Int
  isActive : Bool
  deriving DecidableEq

/-- The tables of users and sessions. The identifiers of sessions are never used again. -/
structure AuthState where
  users : List UserRow
  sessions : List SessionRow
  nextSessionId : Nat
  deriving DecidableEq

/-- The table of sessions has uniqueness constraints on both tokens. They can be left out here. -/
structure Schema where
  unique : Bool
  deriving DecidableEq

structure TokenPair where
  accessToken : Text
  refreshToken : Text
  expiresIn : Int
  refreshExpiresIn : Int
  deriving DecidableEq

def hexDigit (value : Nat) : Char := Nat.digitChar value

def hexByte (byte : UInt8) : Text := [hexDigit (byte.toNat / 16), hexDigit (byte.toNat % 16)]

def hexText (bytes : Vector UInt8 32) : Text := bytes.toList.flatMap hexByte

/-- The number that `%llu` writes. -/
def unsignedText (value : UInt64) : Text := decimal value.toNat

/-- What is signed is cut to its buffer, which the parts share. -/
def accessPayload (userId : UInt64) (clientIp : Text) (now : Int) (jti : Text) : Text :=
  let start := cutTo 512 ("\x7b\"user_id\":".toList ++ unsignedText userId ++ ",\"ip\":\"".toList ++ clientIp ++
    "\",\"type\":\"access\",\"iat\":".toList ++ decimal now ++ ",\"exp\":".toList ++
    decimal (now + authSessionTimeout) ++ ",\"jti\":\"".toList)
  appendTo 512 (appendTo 512 start jti) "\"\x7d".toList

/-- A token begins with its kind, its user and the time when it expires. -/
def tokenStart (kind : Text) (userId : UInt64) (expiresAt : Int) : Text :=
  cutTo authTokenLength (kind ++ '_' :: (unsignedText userId ++ '_' :: (decimal expiresAt ++ ['_'])))

/-- The signature is cut to the space that is left in the token. -/
def accessTokenText (crypto : Crypto) (userId : UInt64) (clientIp : Text) (now : Time) (jti : Text) : Text :=
  appendTo authTokenLength (tokenStart "AT".toList userId (now.seconds + authSessionTimeout))
    (hexText (crypto.hmac (accessPayload userId clientIp now.seconds jti)))

def generateAccessToken (crypto : Crypto) (userId : UInt64) (clientIp : Text) (now : Time) (jti : Text)
    (hmacOk : Bool) : Option Text :=
  if !hmacOk then none else some (accessTokenText crypto userId clientIp now jti)

def refreshData (userId : UInt64) (clientIp : Text) (expiresAt : Int) : Text :=
  cutTo 256 (unsignedText userId ++ ":".toList ++ clientIp ++ ":".toList ++ decimal expiresAt ++
    ":refresh".toList)

def refreshTokenText (crypto : Crypto) (userId : UInt64) (clientIp : Text) (now : Time) : Text :=
  let expiresAt := now.seconds + authRefreshTokenLifetime
  appendTo authTokenLength (tokenStart "RT".toList userId expiresAt)
    (hexText (crypto.hmac (refreshData userId clientIp expiresAt)))

/-- A random part is generated as well and then used nowhere. -/
def generateRefreshToken (crypto : Crypto) (userId : UInt64) (clientIp : Text) (now : Time)
    (hmacOk : Bool) : Option Text :=
  if !hmacOk then none else some (refreshTokenText crypto userId clientIp now)

/-- What one issue of tokens reads from the clock and the random source, and what the system answers. -/
structure IssueAnswers where
  now : Time
  accessNow : Time
  refreshNow : Time
  jti : Text
  randomPart : Text
  accessHmacOk : Bool
  refreshHmacOk : Bool
  prepareOk : Bool
  stepOk : Bool
  deriving DecidableEq

/-- What happens in the tables and what the calls return. -/
inductive AuthOutput where
  | verified (userId : UInt64) (now : Int) (valid : Bool)
  | inserted (row : SessionRow)
  | duplicate (refreshToken : Text)
  | loggedIn (userId : UInt64) (tokens : TokenPair) (firstRow lastRow : Nat)
  | loggedOut (userId : UInt64) (accessToken : Text)
  | returned (code : AuthCode)
  deriving DecidableEq

/-- The database refuses a row whose tokens it has, if it looks, and a row of a user that it does not know. -/
def insertSession (schema : Schema) (state : AuthState) (row : SessionRow) : Option AuthState :=
  if schema.unique && state.sessions.any
      (fun other => other.accessToken == row.accessToken || other.refreshToken == row.refreshToken) then none
  else if !state.users.any (fun user => user.id == row.userId) then none
  else some { state with
    sessions := state.sessions ++ [row]
    nextSessionId := state.nextSessionId + 1 }

def hasRefreshToken (state : AuthState) (refreshToken : Text) : Bool :=
  state.sessions.any fun row => row.refreshToken == refreshToken

def authGenerateTokens (schema : Schema) (crypto : Crypto) (state : AuthState) (userId : UInt64)
    (clientIp : Text) (answers : IssueAnswers) :
    AuthCode × Option TokenPair × AuthState × List AuthOutput :=
  match generateAccessToken crypto userId clientIp answers.accessNow answers.jti answers.accessHmacOk with
  | none => (.invalidCredentials, none, state, [])
  | some accessToken =>
      match generateRefreshToken crypto userId clientIp answers.refreshNow answers.refreshHmacOk with
      | none => (.invalidCredentials, none, state, [])
      | some refreshToken =>
          let tokens := ⟨accessToken, refreshToken, authSessionTimeout, authRefreshTokenLifetime⟩
          if !answers.prepareOk then (.invalidCredentials, none, state, [])
          else
            let row := ⟨state.nextSessionId, userId, accessToken, refreshToken, clientIp, answers.now.seconds,
              answers.now.seconds + tokens.expiresIn, answers.now.seconds + tokens.refreshExpiresIn, true,
              answers.refreshNow⟩
            let refused := if hasRefreshToken state refreshToken then [AuthOutput.duplicate refreshToken] else []
            match insertSession schema state row, answers.stepOk with
            | some next, true => (.success, some tokens, next, refused ++ [.inserted row])
            | _, _ => (.invalidCredentials, none, state, refused)

/-- The tokens of the session are those of a second issue. -/
def authCreateSession (schema : Schema) (crypto : Crypto) (state : AuthState) (userId : UInt64)
    (clientIp : Text) (answers : IssueAnswers) :
    AuthCode × Option TokenPair × AuthState × List AuthOutput :=
  authGenerateTokens schema crypto state userId clientIp answers

def isSpace (letter : Char) : Bool := letter == ' ' || (9 ≤ letter.toNat && letter.toNat ≤ 13)

/-- The number at the start of a text and what is behind it. A number that is too large is the largest one,
and a minus sign negates in 64 bits. Without a digit nothing is read. -/
def strtoull (text : Text) : UInt64 × Text :=
  let trimmed := text.dropWhile isSpace
  let (negative, unsigned) := match trimmed with
    | '-' :: rest => (true, rest)
    | '+' :: rest => (false, rest)
    | rest => (false, rest)
  let digits := unsigned.takeWhile Char.isDigit
  if digits = [] then (0, text)
  else
    let value := Nat.ofDigitChars 10 digits 0
    let rest := unsigned.dropWhile Char.isDigit
    if 2 ^ 64 ≤ value then (UInt64.ofNat (2 ^ 64 - 1), rest)
    else (if negative then 0 - UInt64.ofNat value else UInt64.ofNat value, rest)

def hexValue (letter : Char) : Option Nat :=
  if letter.isDigit then some (letter.toNat - 48)
  else if 'a' ≤ letter ∧ letter ≤ 'f' then some (letter.toNat - 87)
  else if 'A' ≤ letter ∧ letter ≤ 'F' then some (letter.toNat - 55)
  else none

/-- What `strtoul` reads from two letters, cut to a byte. -/
def strtoulByte (first second : Char) : UInt8 :=
  match hexValue first with
  | some high =>
      match hexValue second with
      | some low => UInt8.ofNat (16 * high + low)
      | none => UInt8.ofNat high
  | none =>
      if isSpace first || first == '+' then UInt8.ofNat ((hexValue second).getD 0)
      else if first == '-' then 0 - UInt8.ofNat ((hexValue second).getD 0)
      else 0

/-- The bytes that a text of digits stands for. -/
def hexBytes : Text → List UInt8
  | first :: second :: rest => strtoulByte first second :: hexBytes rest
  | _ => []

/-- The text behind the last separator, and the text in front of it. -/
def splitLast (token : Text) : Option (Text × Text) :=
  if '_' ∈ token then
    let signature := (token.reverse.takeWhile (· ≠ '_')).reverse
    some (token.take (token.length - signature.length - 1), signature)
  else none

/-- The signature is computed over the token in front of it. -/
def validateTokenSignature (crypto : Crypto) (token : Text) : Bool :=
  if token.length < 64 then false
  else
    match splitLast token with
    | none => false
    | some (payload, signature) =>
        if signature.length ≠ 64 then false
        else if 512 ≤ payload.length then false
        else (crypto.hmac payload).toList == hexBytes signature

/-- The user of a token. -/
def tokenUserId (token : Text) : Option UInt64 :=
  let rest := token.drop 3
  if '_' ∈ rest then
    let digits := rest.takeWhile (· ≠ '_')
    if 32 ≤ digits.length then none
    else if (strtoull digits).2 = [] then some (strtoull digits).1 else none
  else none

def authValidateToken (crypto : Crypto) (state : AuthState) (accessToken : Text) (now : Int)
    (prepareOk : Bool) : AuthCode × Option UInt64 :=
  if accessToken.length < 10 ∨ accessToken.take 3 ≠ "AT_".toList then (.invalidToken, none)
  else if !validateTokenSignature crypto accessToken then (.invalidToken, none)
  else
    match tokenUserId accessToken with
    | none => (.invalidToken, none)
    | some userId =>
        if !prepareOk then (.invalidCredentials, some userId)
        else
          match state.sessions.find? (fun row =>
              row.accessToken == accessToken && row.isValid && decide (now < row.expiresAt)) with
          | none => (.tokenExpired, some userId)
          | some row =>
              if row.expiresAt ≤ now then (.tokenExpired, some row.userId) else (.success, some row.userId)

end SecureChat.Auth
