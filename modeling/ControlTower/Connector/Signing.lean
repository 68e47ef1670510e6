import Mathlib
import ControlTower.Connector.Webhook

/-! The text that an HMAC signature covers determines the timestamp, the nonce and the
body: the timestamp ends at the first dot behind the version, the digest of the body
begins at the last one. -/

set_option autoImplicit false

namespace ControlTower.Connectors

open Foundation

variable {runtime : ConnectorRuntime}

/-- The decimal text of an integer has no dot. -/
theorem dot_not_in_integer (value : Int) : '.' ∉ (toString value).toList := by
  have digits (number : Nat) : '.' ∉ number.repr.toList := by
    intro member
    have listed : '.' ∈ Nat.toDigits 10 number := by simpa [Nat.repr] using member
    have digit : Char.isDigit '.' = true := Nat.isDigit_of_mem_toDigits (by decide) (by decide) listed
    cases digit
  change '.' ∉ (Int.repr value).toList
  rw [Int.repr_eq_if]
  split
  · exact digits _
  · rw [String.toList_append, List.mem_append, not_or]
    exact ⟨by decide, digits _⟩

/-- Digests of bodies: hexadecimal digits, and no two bodies share one. -/
structure BodyDigests (runtime : ConnectorRuntime) : Prop where
  injective : Function.Injective runtime.sha256Body
  hexadecimal : ∀ body, ∀ letter ∈ (runtime.sha256Body body).toList, letter ∈ "0123456789abcdef".toList

theorem BodyDigests.undotted (digests : BodyDigests runtime) (body : List UInt8) :
    '.' ∉ (runtime.sha256Body body).toList := by
  intro member
  have letter := digests.hexadecimal body '.' member
  revert letter
  decide

/-- The signed text of a message can be read in one way only. -/
theorem signing_payload_unambiguous (digests : BodyDigests runtime) {timestamp other : Int} {nonce otherNonce : String}
    {body otherBody : List UInt8}
    (same : hmacV1SigningPayload runtime (toString timestamp) nonce body =
      hmacV1SigningPayload runtime (toString other) otherNonce otherBody) :
    timestamp = other ∧ nonce = otherNonce ∧ body = otherBody := by
  have letters := congrArg String.toList same
  unfold hmacV1SigningPayload at letters
  simp only [String.toList_append, List.append_assoc] at letters
  have behind := List.append_cancel_left letters
  obtain ⟨timestamps, rest⟩ := Text.cut_first (dot_not_in_integer timestamp) (dot_not_in_integer other) behind
  obtain ⟨nonces, bodies⟩ := Text.cut_last (digests.undotted body) (digests.undotted otherBody) rest
  have times : timestamp = other := Int.repr_inj.mp (String.toList_inj.mp timestamps)
  exact ⟨times, String.toList_inj.mp nonces, digests.injective (String.toList_inj.mp bodies)⟩

section Sample

def hexDigit (value : Nat) : Char := ("0123456789abcdef".toList[value]?).getD '0'

/-- The bytes of a body in hexadecimal digits. -/
def hexBody (body : List UInt8) : List Char :=
  body.flatMap fun byte => [hexDigit (byte.toNat / 16), hexDigit (byte.toNat % 16)]

theorem hexDigit_injective : ∀ first < 16, ∀ second < 16, hexDigit first = hexDigit second → first = second := by decide

theorem hexDigit_listed (value : Nat) : hexDigit value ∈ "0123456789abcdef".toList := by
  unfold hexDigit
  cases found : "0123456789abcdef".toList[value]? with
  | none => decide
  | some digit => exact List.mem_of_getElem? found

theorem hexBody_injective : Function.Injective hexBody := by
  intro first
  induction first with
  | nil =>
    intro second same
    cases second with
    | nil => rfl
    | cons byte rest => cases same
  | cons byte rest ih =>
    intro second same
    cases second with
    | nil => cases same
    | cons other more =>
      obtain ⟨high, behind⟩ := List.cons_eq_cons.mp same
      obtain ⟨low, tails⟩ := List.cons_eq_cons.mp behind
      have small (value : UInt8) : value.toNat < 256 := value.toNat_lt
      have quotients := hexDigit_injective (byte.toNat / 16) (by have := small byte; omega) (other.toNat / 16)
        (by have := small other; omega) high
      have remainders := hexDigit_injective (byte.toNat % 16) (by omega) (other.toNat % 16) (by omega) low
      have bytes : byte = other := UInt8.toNat_inj.mp (by omega)
      exact List.cons_eq_cons.mpr ⟨bytes, ih tails⟩

def hexRuntime : ConnectorRuntime :=
  { ConnectorRuntime.plain [] with sha256Body := fun body => String.ofList (hexBody body) }

theorem hexRuntime_digests : BodyDigests hexRuntime where
  injective := fun _ _ same => hexBody_injective (String.ofList_inj.mp same)
  hexadecimal := by
    intro body letter member
    have digits : letter ∈ hexBody body := by simpa [hexRuntime] using member
    obtain ⟨byte, _, digit⟩ := List.mem_flatMap.mp digits
    rcases List.mem_pair.mp digit with rfl | rfl <;> exact hexDigit_listed _

/-- A nonce with a dot in it. -/
theorem dotted_nonce_unambiguous : (17 : Int) = 17 ∧ "4.2" = "4.2" ∧ ([7] : List UInt8) = [7] := by
  have same : hmacV1SigningPayload hexRuntime (toString (17 : Int)) "4.2" [7] =
      hmacV1SigningPayload hexRuntime (toString (17 : Int)) "4.2" [7] := rfl
  exact signing_payload_unambiguous hexRuntime_digests same

end Sample

end ControlTower.Connectors
