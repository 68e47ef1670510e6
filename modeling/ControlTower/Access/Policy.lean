import Mathlib.Data.List.Dedup
import ControlTower.Access.Model

/-! The policies for the email address and the password of a registration. -/

set_option autoImplicit false

namespace ControlTower

open Foundation

section Email

def localOrReservedDomains : List String := ["localhost", "local", "invalid", "test"]

def localOrReservedSuffixes : List String := [".localhost", ".local", ".invalid", ".test"]

/-- `text.rsplit(separator, 1)` of a text that has the separator. -/
def splitAtLast (separator : Char) (text : String) : String × String :=
  let back := text.toList.reverse
  let tail := back.takeWhile (· != separator)
  (String.ofList (back.drop (tail.length + 1)).reverse, String.ofList tail.reverse)

/-- The error of `validate_registration_email_deliverability`; `resolves` is the answer of the name service. -/
def emailFailure (runtime : AccessRuntime) (resolves : String → Bool) (email : String) : Option String :=
  let normalizedEmail := Text.strip (runtime.lower email)
  let (localPart, domain) := splitAtLast '@' normalizedEmail
  if '@' ∉ normalizedEmail.toList then some "Email address is invalid"
  else if localPart = "" ∨ domain = "" then some "Email address is invalid"
  else if domain ∈ localOrReservedDomains ∨ localOrReservedSuffixes.any (Text.endsWith domain) = true then
    some "Email domain must be publicly deliverable"
  else if '.' ∉ domain.toList then some "Email domain must include a public suffix"
  else if resolves domain = false then some "Email domain does not appear to receive mail"
  else none

end Email

section Password

def passwordMinLength : Nat := 12

def passwordMaxLength : Nat := 128

def productWords : List String := ["aixion", "controltower", "approval", "account"]

/-- The window of `_contains_obvious_sequence`. -/
def sequenceWindow : Nat := 6

/-- Each character follows the one before it by a step of the code point. -/
def isRun (step : Int) : List Char → Bool
  | left :: right :: rest => (right.toNat : Int) - left.toNat == step && isRun step (right :: rest)
  | _ => true

/-- The windows of a text, each with all its characters. -/
def windows (width : Nat) : List Char → List (List Char)
  | [] => []
  | c :: rest => if width ≤ rest.length + 1 then (c :: rest).take width :: windows width rest else []

def containsObviousSequence (compact : List Char) : Bool :=
  (windows sequenceWindow compact).any fun chunk => isRun 1 chunk || isRun (-1) chunk

/-- `string.punctuation`. -/
def isPunctuation (c : Char) : Bool := "!\"#$%&'()*+,-./:;<=>?@[\\]^_`\x7b|\x7d~".toList.contains c

/-- `email.lower().split("@", 1)[0].strip()`. -/
def emailUsername (runtime : AccessRuntime) (email : String) : String :=
  Text.strip (String.ofList ((runtime.lower email).toList.takeWhile (· != '@')))

/-- The error of `validate_password_policy`. -/
def passwordFailure (runtime : AccessRuntime) (password email : String) : Option String :=
  let lowered := runtime.lower password
  let compact := lowered.toList.filter runtime.isAlnum
  let username := emailUsername runtime email
  if password.length < passwordMinLength then
    some ("Password must be at least " ++ toString passwordMinLength ++ " characters long")
  else if passwordMaxLength < password.length then
    some ("Password must be at most " ++ toString passwordMaxLength ++ " characters long")
  else if password ≠ Text.strip password then some "Password must not start or end with whitespace"
  else if password.toList.any Text.isSpace = true then some "Password must not contain whitespace"
  else if lowered.toList.dedup.length < 5 then some "Password must not rely on repeated characters"
  else if email ≠ "" ∧ 4 ≤ username.length ∧ Text.contains lowered username = true then
    some "Password must not contain the email username"
  else if password.toList.any (fun c => 'a' ≤ c ∧ c ≤ 'z') = false ∨ password.toList.any (fun c => 'A' ≤ c ∧ c ≤ 'Z') = false ∨
      password.toList.any (fun c => '0' ≤ c ∧ c ≤ '9') = false ∨ password.toList.any isPunctuation = false then
    some "Password must include lowercase, uppercase, number, and symbol"
  else if containsObviousSequence compact = true then
    some "Password must not contain obvious keyboard or numeric sequences"
  else if productWords.any (Text.contains (String.ofList compact)) = true then
    some "Password must not contain obvious product or account words"
  else none

end Password

end ControlTower
