import SovAgent.Foundation.JsonRoundTrip
import SovAgent.Onboarding.VdxfKeys

/-! # Building a contentmultimap

`buildAgentContentMultimap`: every field of a profile under a flat key of its
own, and the services as one text of JSON.
-/

namespace SovAgent.Onboarding

/-! ## Inputs -/

/-- An object that is written as it is: session limits, the platform's
configuration, a policy or a breakdown of costs. -/
structure Document where
  members : List (String × Json)
  distinct : (Json.object members).Distinct

def Document.json (document : Document) : Json := .object document.members

structure NetworkInput where
  capabilities : Option (List String) := none
  endpoints : Option (List String) := none
  protocols : Option (List String) := none

structure ProfileInput where
  tags : Option (List String) := none
  website : Option String := none
  avatar : Option String := none
  category : Option String := none

structure AgentProfileInput where
  name : String
  type : String
  description : String
  payAddress : Option String := none
  network : Option NetworkInput := none
  profile : Option ProfileInput := none
  session : Option Document := none
  platformConfig : Option Document := none
  workspaceCapability : Option Document := none
  models : Option (List String) := none
  markup : Option Decimal := none

structure CurrencyPrice where
  currency : String
  price : Decimal

structure ServiceInput where
  name : String
  description : Option String := none
  category : Option String := none
  price : Option Decimal := none
  currency : Option String := none
  turnaround : Option String := none
  paymentTerms : Option String := none
  privateMode : Option Bool := none
  sovguard : Option Bool := none
  acceptedCurrencies : Option (List CurrencyPrice) := none
  resolutionWindow : Option Decimal := none
  refundPolicy : Option Document := none
  costBreakdown : Option Document := none
  status : Option String := none

def filled (text : Option String) : Option String := text.filter (· ≠ "")

def listed (items : Option (List α)) : Option (List α) := items.filter (!·.isEmpty)

/-! ## Services -/

def ServiceInput.prices (svc : ServiceInput) : List CurrencyPrice :=
  let own := match svc.price, filled svc.currency with
    | some price, some currency => [{ currency, price }]
    | _, _ => []
  own ++ svc.acceptedCurrencies.getD []

def pricingEntry (accepted : CurrencyPrice) : Json :=
  .object [("currency", .string accepted.currency), ("amount", .string accepted.price.toString)]

def serviceMembers (svc : ServiceInput) : List (String × Option Json) := [
  ("name", some (.string svc.name)),
  ("status", some (.string ((filled svc.status).getD "active"))),
  ("description", (filled svc.description).map .string),
  ("category", (filled svc.category).map .string),
  ("pricing", (listed (some (svc.prices.map pricingEntry))).map .array),
  ("turnaround", (filled svc.turnaround).map .string),
  ("paymentTerms", (filled svc.paymentTerms).map .string),
  ("privateMode", svc.privateMode.map .bool),
  ("sovguard", svc.sovguard.map .bool),
  ("resolutionWindow", svc.resolutionWindow.map .number),
  ("refundPolicy", svc.refundPolicy.map Document.json),
  ("costBreakdown", svc.costBreakdown.map Document.json)]

def serializeService (svc : ServiceInput) : Json :=
  .object ((serviceMembers svc).filterMap fun entry => entry.2.map fun value => (entry.1, value))

def serializeServiceArray (services : List ServiceInput) : Json :=
  .array (services.map serializeService)

/-! ## The map -/

def textsJson (texts : List String) : Json := .array (texts.map .string)

def servicesText (services : List ServiceInput) : Option String :=
  (listed (some services)).map fun services => (serializeServiceArray services).stringify

def textsText (texts : Option (List String)) : Option String :=
  (listed texts).map fun texts => (textsJson texts).stringify

def documentText (document : Option Document) : Option String :=
  document.map fun document => document.json.stringify

/-- `Object.keys(document).length > 0`. -/
def Document.nonempty (document : Document) : Bool := !document.members.isEmpty

def agentTexts (profile : AgentProfileInput) (services : List ServiceInput)
    (disputePolicy : Option Document) : List (String × Option String) := [
  (VdxfKeys.agentDisplayName, some profile.name),
  (VdxfKeys.agentType, some profile.type),
  (VdxfKeys.agentDescription, some profile.description),
  (VdxfKeys.agentStatus, some "active"),
  (VdxfKeys.agentPayAddress, filled profile.payAddress),
  (VdxfKeys.agentServices, servicesText services),
  (VdxfKeys.agentNetworkCapabilities,
    textsText (profile.network.bind NetworkInput.capabilities)),
  (VdxfKeys.agentNetworkEndpoints, textsText (profile.network.bind NetworkInput.endpoints)),
  (VdxfKeys.agentNetworkProtocols, textsText (profile.network.bind NetworkInput.protocols)),
  (VdxfKeys.agentProfileTags, textsText (profile.profile.bind ProfileInput.tags)),
  (VdxfKeys.agentProfileWebsite, filled (profile.profile.bind ProfileInput.website)),
  (VdxfKeys.agentProfileAvatar, filled (profile.profile.bind ProfileInput.avatar)),
  (VdxfKeys.agentProfileCategory, filled (profile.profile.bind ProfileInput.category)),
  (VdxfKeys.agentModels, textsText profile.models),
  (VdxfKeys.agentMarkup,
    (profile.markup.filter fun markup => 1 ≤ markup.toRat ∧ markup.toRat ≤ 50).map
      Decimal.toString),
  (VdxfKeys.sessionParams, documentText (profile.session.filter Document.nonempty)),
  (VdxfKeys.platformConfig, documentText (profile.platformConfig.filter Document.nonempty)),
  (VdxfKeys.workspaceCapability, documentText profile.workspaceCapability),
  (VdxfKeys.agentDisputePolicy, documentText disputePolicy)]

def writeText (cmm : Record String (List Json)) (entry : String × Option String) :
    Record String (List Json) :=
  match entry.2 with
  | some text => cmm.set entry.1 [makeSubDD entry.1 text]
  | none => cmm

def buildAgentContentMultimap (profile : Option AgentProfileInput) (services : List ServiceInput)
    (disputePolicy : Option Document) : Record String (List Json) :=
  let texts := match profile with
    | some profile => agentTexts profile services disputePolicy
    -- Without a profile, the dispute policy is not written.
    | none => [(VdxfKeys.agentServices, servicesText services)]
  texts.foldl writeText Record.empty

/-! ## What is written -/

theorem writeTexts_get? {entries : List (String × Option String)}
    (distinct : (entries.map Prod.fst).Nodup) (start : Record String (List Json)) (key : String) :
    (entries.foldl writeText start).get? key =
      ((entries.lookup key).join.map fun text => [makeSubDD key text]).or (start.get? key) := by
  induction entries generalizing start with
  | nil => rfl
  | cons head tail induction =>
      rcases head with ⟨name, text⟩
      rcases List.nodup_cons.mp distinct with ⟨fresh, rest⟩
      rw [List.foldl_cons, induction rest, Record.lookup_cons]
      by_cases same : key = name
      · subst same
        have absent : tail.lookup key = none := by
          rw [← Option.not_isSome_iff_eq_none]
          simpa using fresh
        cases text <;> simp [absent, writeText]
      · cases text <;> simp [same, writeText]

end SovAgent.Onboarding
