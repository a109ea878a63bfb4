import SovAgent.Foundation.Delimited
import SovAgent.Foundation.DoubleOrder
import SovAgent.Identity.HexText

/-! # Webhooks

The platform signs the body of a webhook, and the time with it. A signature that was
captured is good for its own body and time only, and only while the window lasts.
-/

namespace SovAgent.Webhook

open Identity

inductive Payload where
  | text (body : String)
  | buffer (bytes : Bytes)

namespace Payload

/-- What `hmac.update(payload)` is given. -/
def bytes : Payload → Bytes
  | .text body => utf8 body
  | .buffer bytes => bytes

/-- `typeof payload === 'string' ? payload : payload.toString('utf8')` -/
def body : Payload → String
  | .text body => body
  | .buffer bytes => Crypto.bufferText bytes

end Payload

section Code

-- `createHmac('sha256', secret)`, of some bytes.
variable (hmac : (secret : String) → Bytes → Bytes)

/-- The signature without `sha256=`. -/
def signatureDigits (signature : String) : String :=
  if startsWith signature "sha256=" then String.ofList (signature.toList.drop 7) else signature

/-- `timingSafeEqual` throws on bytes of another number. -/
def signatureMatches (expected sig : String) : Bool :=
  utf16Length expected = utf16Length sig ∧ fromHex expected = fromHex sig

def verifyWebhookSignature (payload : Payload) (signature secret : String) : Bool :=
  signature ≠ "" ∧ signatureMatches (hex (hmac secret payload.bytes)) (signatureDigits signature)

/-- `Math.abs(now - timestamp) > tolerance`, or `timestamp` is not finite. -/
def outsideWindow (now : Decimal) (timestamp tolerance : Number) : Bool :=
  match timestamp with
  | .finite timestamp => exceeds |double (now.toRat - timestamp.toRat)| tolerance
  | _ => true

def signedText (timestamp : Number) (body : String) : String := s!"{timestamp}.{body}"

def verifyWebhookSignatureWithTimestamp (payload : Payload) (signature secret : String)
    (timestamp : Number) (toleranceSeconds : Number := 300) (now : Decimal) : Bool :=
  signature ≠ "" ∧ outsideWindow now timestamp toleranceSeconds = false ∧
    signatureMatches (hex (hmac secret (utf8 (signedText timestamp payload.body))))
      (signatureDigits signature)

end Code

/-! ## Signatures -/

/-- A signature is the text of some bytes, in letters of either case. -/
structure Spells (signature : String) (mac : Bytes) : Prop where
  length : utf16Length (signatureDigits signature) = 2 * mac.length
  value : fromHex (signatureDigits signature) = mac

theorem utf16Length_hex (bytes : Bytes) : utf16Length (hex bytes) = 2 * bytes.length := by
  have units : (hex bytes).toList.map utf16Units =
      List.replicate (hex bytes).toList.length 1 := by
    rw [← List.map_const']
    exact List.map_congr_left fun digit member => Crypto.hex_units member
  rw [utf16Length, units, List.sum_replicate, Crypto.length_hex]
  exact Nat.mul_one _

theorem Spells.nonempty {signature : String} {mac : Bytes} (spells : Spells signature mac)
    (some : mac ≠ []) : signature ≠ "" := by
  rintro rfl
  exact some spells.value.symm

/-- A signature matches the code that it spells, and no other of its length. -/
theorem Spells.matches_iff {signature : String} {mac other : Bytes}
    (spells : Spells signature mac) (length : other.length = mac.length) :
    signatureMatches (hex other) (signatureDigits signature) = true ↔ other = mac := by
  rw [signatureMatches, decide_eq_true_eq, utf16Length_hex, spells.length, length, fromHex_hex,
    spells.value]
  exact and_iff_right rfl

theorem verifyWebhookSignatureWithTimestamp_iff (hmac : String → Bytes → Bytes)
    (payload : Payload) (signature secret : String) (timestamp tolerance : Number)
    (now : Decimal) :
    verifyWebhookSignatureWithTimestamp hmac payload signature secret timestamp tolerance now =
        true ↔
      outsideWindow now timestamp tolerance = false ∧
        verifyWebhookSignature hmac (.text (signedText timestamp payload.body)) signature secret =
          true := by
  rw [verifyWebhookSignatureWithTimestamp, verifyWebhookSignature, decide_eq_true_eq,
    decide_eq_true_eq]
  exact and_left_comm

theorem Spells.verifies_iff {hmac : String → Bytes → Bytes} {secret signature : String}
    (length : ∀ bytes, (hmac secret bytes).length = 32) {signed : Bytes}
    (spells : Spells signature (hmac secret signed)) (payload : Payload) :
    verifyWebhookSignature hmac payload signature secret = true ↔
      hmac secret payload.bytes = hmac secret signed := by
  have some : hmac secret signed ≠ [] := by
    apply List.ne_nil_of_length_pos
    rw [length]
    decide
  rw [verifyWebhookSignature, decide_eq_true_eq,
    spells.matches_iff ((length _).trans (length _).symm)]
  exact and_iff_right (spells.nonempty some)

theorem signedText_inj {timestamp timestamp' : Int} (small : timestamp.natAbs < 10 ^ 21)
    (small' : timestamp'.natAbs < 10 ^ 21) {body body' : String}
    (same : signedText (.finite (.ofInt timestamp)) body =
      signedText (.finite (.ofInt timestamp')) body') :
    timestamp = timestamp' ∧ body = body' := by
  have texts := congrArg String.toList same
  simp only [signedText, toString_text, String.toList_append, List.append_assoc] at texts
  rcases Delimited.first_cons_inj texts (Decimal.noPoint_ofInt small)
    (Decimal.noPoint_ofInt small') with ⟨times, bodies⟩
  have numbers := Decimal.toString_injective (String.toList_inj.mp times)
  have values := congrArg Decimal.toRat numbers
  rw [Decimal.toRat_ofInt, Decimal.toRat_ofInt] at values
  exact ⟨by exact_mod_cast values, String.toList_inj.mp bodies⟩

-- A time with a fraction reads like another time with a longer body.
example : signedText (.finite (Decimal.ofScientific 15 (-1))) "x" = signedText 1 "5.x" := by decide

/-! ## A captured webhook -/

structure Delivery where
  timestamp : Int
  body : String
  small : timestamp.natAbs < 10 ^ 21

def Delivery.mac (hmac : String → Bytes → Bytes) (secret : String) (delivery : Delivery) : Bytes :=
  hmac secret (utf8 (signedText (.finite (.ofInt delivery.timestamp)) delivery.body))

/-- The signature of a webhook verifies with its own time and body while the window lasts, and
with no other time or body, however late it is presented again. -/
theorem verifyWebhook_captured_iff {hmac : String → Bytes → Bytes} {secret : String}
    (length : ∀ bytes, (hmac secret bytes).length = 32) {delivery : Delivery} {signature : String}
    (spells : Spells signature (delivery.mac hmac secret)) {payload : Payload} {timestamp : Int}
    (small : timestamp.natAbs < 10 ^ 21) (tolerance : Number) (now : Decimal)
    (noCollision : hmac secret (utf8 (signedText (.finite (.ofInt timestamp)) payload.body)) =
      delivery.mac hmac secret →
        signedText (.finite (.ofInt timestamp)) payload.body =
          signedText (.finite (.ofInt delivery.timestamp)) delivery.body) :
    verifyWebhookSignatureWithTimestamp hmac payload signature secret
        (.finite (.ofInt timestamp)) tolerance now = true ↔
      timestamp = delivery.timestamp ∧ payload.body = delivery.body ∧
        exceeds |double (now.toRat - delivery.timestamp)| tolerance = false := by
  rw [Delivery.mac] at spells
  rw [verifyWebhookSignatureWithTimestamp_iff, spells.verifies_iff length, outsideWindow,
    Decimal.toRat_ofInt]
  constructor
  · intro accepted
    rcases accepted with ⟨inside, codes⟩
    rcases signedText_inj small delivery.small (noCollision codes) with ⟨rfl, bodies⟩
    exact ⟨rfl, bodies, inside⟩
  · intro genuine
    rcases genuine with ⟨rfl, bodies, inside⟩
    refine ⟨inside, ?_⟩
    rw [bodies]
    rfl

def recordedMac : Bytes :=
  fromHex "d0da639b6d98ab588920dad4d8636bf0a07e563b8def63fe9235eddc5a617b86"

def recordedDelivery : Delivery where
  timestamp := 1700000000
  body := "\x7b\"event\":\"job.created\"\x7d"
  small := by decide

def recordedText : Bytes := utf8 "1700000000.\x7b\"event\":\"job.created\"\x7d"

def recordedHmac (secret : String) (bytes : Bytes) : Bytes :=
  if secret = "whsec_1" ∧ bytes = recordedText then recordedMac else List.replicate 32 0

def recordedSignature : String :=
  "sha256=D0DA639B6D98AB588920DAD4D8636BF0A07E563B8DEF63FE9235EDDC5A617B86"

theorem recordedHmac_length (secret : String) (bytes : Bytes) :
    (recordedHmac secret bytes).length = 32 := by
  rw [recordedHmac]
  split
  · decide
  · rfl

theorem recordedSignature_spells :
    Spells recordedSignature (recordedDelivery.mac recordedHmac "whsec_1") where
  length := by decide +kernel
  value := by decide +kernel

/-- Within the window, after it, and after it under a newer time. -/
theorem verifyWebhook_captured_iff_replayed :
    let verifies := fun timestamp : Int => verifyWebhookSignatureWithTimestamp recordedHmac
      (.text recordedDelivery.body) recordedSignature "whsec_1" (.finite (.ofInt timestamp)) 300
    verifies 1700000000 (.ofInt 1700000300) = true ∧
      verifies 1700000000 (.ofInt 1700000301) = false ∧
      verifies 1700000300 (.ofInt 1700000301) = false := by
  intro verifies
  have own : ∀ now, verifies 1700000000 now = true ↔ _ := fun now =>
    verifyWebhook_captured_iff (recordedHmac_length "whsec_1") recordedSignature_spells
      recordedDelivery.small 300 now fun _ => rfl
  refine ⟨(own _).mpr ⟨rfl, rfl, by decide +kernel⟩, ?_, ?_⟩
  · apply eq_false_of_ne_true
    intro accepted
    exact absurd ((own _).mp accepted).2.2 (by decide +kernel)
  · apply eq_false_of_ne_true
    intro accepted
    have newer := (verifyWebhook_captured_iff (recordedHmac_length "whsec_1")
      recordedSignature_spells (by decide) 300 _ (by decide +kernel)).mp accepted
    exact absurd newer.1 (by decide)

end SovAgent.Webhook
