import SovAgent.Foundation.Coercion
import SovAgent.Onboarding.VdxfKeys

/-! # Decoding a contentmultimap

`decodeContentMultimap` over any JSON object: whatever its publisher has written
under each key, with the errors that the language throws on the way.
-/

namespace SovAgent.Onboarding

/-! ## Keys of the legacy format -/

namespace ParentKeys

def agent : String := "i8XMutgp1MRNoFoHQuzZ4ReowJd9NvCgDP"
def session : String := "iGxK7ke8RptD2mkhmUgjMASFysopezAT4n"
def platform : String := "iMc951yUdCup5rFgZb8nwDFhkdd8Fktg2a"
def workspace : String := "iEibMMaoeMGjoSLSY61wSPB8Qy5rXnXjAk"

end ParentKeys

abbrev ReverseLookup := List (String × String)

def legacyAgentKeys : ReverseLookup := [
  ("iEEqjQsh5YDrwMyxyTrHFrMHTqrsPziCqu", "owner"),
  ("iJ15GBkMfyMxvEf7wivLKbXRjpqS119QrM", "network"),
  ("iAFyowB5a3W5BLEv6tE7EPHAmGhaYcGJCt", "profile")]

def getReverseLookup (group : String) : ReverseLookup :=
  ((VdxfKeys.groups.lookup group).getD []).map Prod.swap

def legacyAgentReverse : ReverseLookup := getReverseLookup "agent" ++ legacyAgentKeys

/-! ## DataDescriptors -/

/-- Pairs of hexadecimal digits up to the first that is none. -/
def hexPrefix : List Char → List Nat
  | high :: low :: rest =>
      match Json.hexValue high, Json.hexValue low with
      | some high, some low => (high * 16 + low) :: hexPrefix rest
      | _, _ => []
  | _ => []

structure SubEntry where
  label : Json
  /-- `none` is `undefined`. -/
  value : Option Json

def descriptorOf (entry : Json) : Option Json :=
  (entry.get? dataDescriptorKey).filter Json.truthy

def parseSubDD (entry : Json) : Option SubEntry :=
  match descriptorOf entry with
  | none => none
  | some dd =>
      let label := ((dd.get? "label").filter Json.truthy).getD (.string "")
      match dd.get? "objectdata" with
      | none => some { label, value := none }
      | some .null => none
      | some (.string text) =>
          let decoded := Json.parse (decodeUtf8 (hexPrefix text.toList))
          some { label, value := some (decoded.getD (.string text)) }
      | some objectdata =>
          some { label, value := some ((objectdata.get? "message").getD objectdata) }

/-- The text of what every object inherits under a name. -/
def inheritedText (name : String) : Option String :=
  if name = "__proto__" then some "[object Object]"
  else if name = "constructor" then some "function Object() \x7b [native code] \x7d"
  else if name ∈ ["__defineGetter__", "__defineSetter__", "__lookupGetter__", "__lookupSetter__",
      "hasOwnProperty", "isPrototypeOf", "propertyIsEnumerable", "toLocaleString", "toString",
      "valueOf"] then some ("function " ++ name ++ "() \x7b [native code] \x7d")
  else none

/-- The key that `reverseLookup[label] || label` is. -/
def fieldName (names : ReverseLookup) (label : String) : String :=
  ((names.lookup label).or (inheritedText label)).getD label

/-- The fields of a legacy container; a value may be `undefined`. -/
abbrev Fields := Record String (Option Json)

def Fields.field (fields : Fields) (name : String) : Option Json := (fields.get? name).join

def addField (names : ReverseLookup) (fields : Fields) (entry : Json) :
    Except ScriptError Fields :=
  match parseSubDD entry with
  | none => .ok fields
  | some sub =>
      if sub.label.truthy then do
        let label ← sub.label.toText
        .ok (fields.set (fieldName names label) sub.value)
      else .ok fields

def parseOuterDD (entry : Json) (names : ReverseLookup) : Except ScriptError (Option Fields) :=
  match (descriptorOf entry).bind (Json.get? "objectdata") with
  | some (.array entries) => do
      let fields ← entries.foldlM (addField names) Record.empty
      .ok (some fields)
  | _ => .ok none

/-! ## Values -/

/-- `entries[entries.length - 1]` of a value with a length that is not zero. -/
def lastEntry (entries : Option Json) : Except ScriptError (Option Json) :=
  match entries with
  | some (.array items) => .ok items.getLast?
  | some (.object members) =>
      match (members.lookup "length").filter Json.truthy with
      | some length => do
          let length ← toNumber (some length)
          .ok (members.lookup length.predecessor.toString)
      | none => .ok none
  -- A character of a text is no descriptor.
  | _ => .ok none

/-- The value of the last entry; `null` and `undefined` are none. -/
def parseFlatEntry (entries : Option Json) : Except ScriptError (Option Json) := do
  let last ← lastEntry entries
  .ok (((last.bind parseSubDD).bind SubEntry.value).filter (· ≠ .null))

def tryParseJson : Json → Json
  | .string text => (Json.parse text).getD (.string text)
  | value => value

/-- `JSON.parse`. -/
def parseJson (text : String) : Except ScriptError Json :=
  match Json.parse text with
  | some value => .ok value
  | none => .error .syntaxError

/-- A truthy value, parsed if it is a text. -/
def parsedDocument (value : Option Json) : Except ScriptError (Option Json) :=
  match value.filter Json.truthy with
  | none => .ok none
  | some (.string text) => (parseJson text).map some
  | some value => .ok (some value)

def vdxfMaxServices : Nat := 100
def vdxfMaxPrice : ℚ := 1000000000
def vdxfMaxNumber : ℚ := 1000000000000

def safeNumber (value : Option Json) (min max : ℚ) : Except ScriptError (Option Decimal) := do
  match ← toNumber value with
  | .finite number => .ok (if number.toRat < min ∨ max < number.toRat then none else some number)
  | .infinity _ | .nan => .ok none

def isVerusAddress (text : String) : Bool :=
  match text.toList with
  | first :: rest => (first = 'R' ∨ first = 'i') ∧ rest.all isBase58 ∧
      25 ≤ rest.length ∧ rest.length ≤ 40
  | [] => false

def verusAddress : Option Json → Option String
  | some (.string text) => if isVerusAddress text then some text else none
  | _ => none

/-! ## Services -/

structure AcceptedCurrency where
  currency : Option Json
  price : Decimal
deriving DecidableEq

/-- A service as it is decoded: texts are what stands in their place, of any type. -/
structure DecodedService where
  name : Json
  description : Option Json
  category : Option Json
  price : Option Decimal
  currency : Option Json
  turnaround : Option Json
  paymentTerms : Option Json
  privateMode : Option Bool
  sovguard : Option Bool
  status : Option Json
  acceptedCurrencies : Option (List AcceptedCurrency)
  resolutionWindow : Option Decimal
  refundPolicy : Option Json
  costBreakdown : Option Json
deriving DecidableEq

/-- A property of a value that may be `null`. -/
def property (value : Json) (key : String) : Except ScriptError (Option Json) :=
  if value = .null then .error .typeError else .ok (value.get? key)

/-- `entry.amount ?? entry.price`, as a price. -/
def entryPrice (entry : Json) : Except ScriptError (Option Decimal) := do
  let amount ← property entry "amount"
  safeNumber ((amount.filter (· ≠ .null)).or (entry.get? "price")) 0 vdxfMaxPrice

/-- A further entry of the pricing; one without a usable price is left out. -/
def acceptedCurrency (entry : Json) : Except ScriptError (Option AcceptedCurrency) := do
  let currency ← property entry "currency"
  let price ← entryPrice entry
  .ok (price.map fun price => { currency, price })

structure Pricing where
  price : Option Decimal := none
  currency : Option Json := none
  acceptedCurrencies : Option (List AcceptedCurrency) := none

def decodePricing (svc : Json) : Except ScriptError Pricing :=
  match svc.get? "pricing" with
  | some (.array entries) =>
      match entries.take 50 with
      | [] => .ok {}
      | [only] => do
          let price ← entryPrice only
          .ok { price, currency := only.get? "currency" }
      | first :: others => do
          let price ← entryPrice first
          let accepted ← others.mapM acceptedCurrency
          .ok {
            price
            currency := first.get? "currency"
            acceptedCurrencies := some accepted.reduceOption }
  | _ => .ok {}

/-- `value != null ? value === true || value === 'true' : undefined`. -/
def decodeFlag (value : Option Json) : Option Bool :=
  (value.filter (· ≠ .null)).map fun value => value = .bool true ∨ value = .string "true"

/-- `safeNumber` of a value that is there. -/
def presentNumber (value : Option Json) (min max : ℚ) : Except ScriptError (Option Decimal) :=
  match value.filter (· ≠ .null) with
  | some value => safeNumber (some value) min max
  | none => .ok none

/-- A service with a name. -/
def decodeNamedService (name svc : Json) : Except ScriptError DecodedService := do
  let pricing ← decodePricing svc
  let resolutionWindow ← presentNumber (svc.get? "resolutionWindow") 0 vdxfMaxNumber
  let refundPolicy ← parsedDocument (svc.get? "refundPolicy")
  let costBreakdown ← parsedDocument (svc.get? "costBreakdown")
  .ok {
    name
    description := svc.get? "description"
    category := svc.get? "category"
    price := pricing.price
    currency := pricing.currency
    turnaround := svc.get? "turnaround"
    paymentTerms := svc.get? "paymentTerms"
    privateMode := decodeFlag (svc.get? "privateMode")
    sovguard := decodeFlag (svc.get? "sovguard")
    status := svc.get? "status"
    acceptedCurrencies := pricing.acceptedCurrencies
    resolutionWindow
    refundPolicy
    costBreakdown }

def decodeService (svc : Json) : Except ScriptError (Option DecodedService) := do
  let name ← property svc "name"
  match name.filter Json.truthy with
  | some name => (decodeNamedService name svc).map some
  | none => .ok none

/-- The first services of the array that the value is, or is a text of. -/
def serviceItems (raw : Json) : Except ScriptError (List Json) := do
  let parsed ← match raw with
    | .string text => parseJson text
    | value => .ok value
  match parsed with
  | .array items => .ok (items.take vdxfMaxServices)
  | _ => .ok []

def decodeServicesArray (raw : Json) : Except ScriptError (List DecodedService) := do
  let items ← serviceItems raw
  let services ← items.mapM decodeService
  .ok services.reduceOption

def decodeServices (raw : Option Json) : Except ScriptError (List DecodedService) :=
  match raw.filter Json.truthy with
  | some raw => decodeServicesArray raw
  | none => .ok []

/-! ## The decoded profile -/

/-- The session object. Copying a `__proto__` member into it sets its prototype. -/
structure DecodedSession where
  value : Json
  inherited : Option Json := none
deriving DecidableEq

def DecodedSession.get? (session : DecodedSession) (key : String) : Option Json :=
  (session.value.get? key).or (session.inherited.bind (Json.get? key))

structure DecodedProfile where
  name : Option Json := none
  type : Option Json := none
  description : Option Json := none
  payAddress : Option String := none
  network : Option Json := none
  profile : Option Json := none
  models : Option (List Json) := none
  markup : Option Decimal := none
  session : Option DecodedSession := none
  platformConfig : Option Json := none
  workspaceCapability : Option Json := none
deriving DecidableEq

structure Decoded where
  profile : DecodedProfile
  services : List DecodedService
  disputePolicy : Option Json
deriving DecidableEq

abbrev ContentMultimap := Record String Json

def objectOf (members : List (String × Option Json)) : Option Json :=
  let present := members.filterMap fun entry => entry.2.map fun value => (entry.1, value)
  if present.isEmpty then none else some (.object present)

def jsonArray : Option Json → Option (List Json)
  | some (.array items) => some items
  | _ => none

/-- `typeof value === 'object' && value !== null`. -/
def isObjectType : Json → Bool
  | .object _ | .array _ => true
  | _ => false

/-- A truthy value, parsed if it is a text of JSON. -/
def leniently (value : Option Json) : Option Json := (value.filter Json.truthy).map tryParseJson

/-! ## The flat format -/

def flatEntry (cmm : ContentMultimap) (key : String) : Except ScriptError (Option Json) :=
  parseFlatEntry (cmm.get? key)

def decodeFlatContentMultimap (cmm : ContentMultimap) : Except ScriptError Decoded := do
  let name ← flatEntry cmm VdxfKeys.agentDisplayName
  let type ← flatEntry cmm VdxfKeys.agentType
  let desc ← flatEntry cmm VdxfKeys.agentDescription
  let payAddr ← flatEntry cmm VdxfKeys.agentPayAddress
  let svcRaw ← flatEntry cmm VdxfKeys.agentServices
  let services ← decodeServices svcRaw
  let caps ← flatEntry cmm VdxfKeys.agentNetworkCapabilities
  let eps ← flatEntry cmm VdxfKeys.agentNetworkEndpoints
  let protos ← flatEntry cmm VdxfKeys.agentNetworkProtocols
  let tags ← flatEntry cmm VdxfKeys.agentProfileTags
  let website ← flatEntry cmm VdxfKeys.agentProfileWebsite
  let avatar ← flatEntry cmm VdxfKeys.agentProfileAvatar
  let category ← flatEntry cmm VdxfKeys.agentProfileCategory
  let models ← flatEntry cmm VdxfKeys.agentModels
  let markupRaw ← flatEntry cmm VdxfKeys.agentMarkup
  let markup ← presentNumber markupRaw 1 50
  let disputeRaw ← flatEntry cmm VdxfKeys.agentDisputePolicy
  let sessionRaw ← flatEntry cmm VdxfKeys.sessionParams
  let platformRaw ← flatEntry cmm VdxfKeys.platformConfig
  let wsRaw ← flatEntry cmm VdxfKeys.workspaceCapability
  .ok {
    profile := {
      name := name.filter Json.truthy
      type := type.filter Json.truthy
      description := desc.filter Json.truthy
      payAddress := verusAddress payAddr
      network := objectOf [
        ("capabilities", leniently caps),
        ("endpoints", leniently eps),
        ("protocols", leniently protos)]
      profile := objectOf [
        ("tags", leniently tags),
        ("website", website.filter Json.truthy),
        ("avatar", avatar.filter Json.truthy),
        ("category", category.filter Json.truthy)]
      models := jsonArray (leniently models)
      markup
      session := ((leniently sessionRaw).filter isObjectType).map fun value => { value }
      platformConfig := (leniently platformRaw).filter isObjectType
      workspaceCapability := (leniently wsRaw).filter isObjectType }
    services
    disputePolicy := leniently disputeRaw }

/-! ## The legacy format -/

/-- The fields of the last container under a parent key. -/
def legacyFields (cmm : ContentMultimap) (parent : String) (names : ReverseLookup) :
    Except ScriptError (Option Fields) := do
  match ← lastEntry (cmm.get? parent) with
  | some last => parseOuterDD last names
  | none => .ok none

def decodeLegacyAgent (data : Fields) : Except ScriptError (DecodedProfile × List DecodedService) :=
  do
  let network ← parsedDocument (data.field "network")
  let profile ← parsedDocument (data.field "profile")
  let services ← decodeServices (data.field "services")
  let models ← parsedDocument (data.field "models")
  let markup ← presentNumber (data.field "markup") 1 50
  .ok ({
    name := (data.field "displayName").filter Json.truthy
    type := (data.field "type").filter Json.truthy
    description := (data.field "description").filter Json.truthy
    payAddress := verusAddress (data.field "owner")
    network
    profile
    models := jsonArray models
    markup }, services)

/-- The own members that `Object.assign` copies. Half of a surrogate pair is read
as the replacement character. -/
def ownMembers : Json → List (String × Json)
  | .object members => members
  | .array items => items.zipIdx.map fun indexed => (toString indexed.2, indexed.1)
  | .string text =>
      let units := text.toList.flatMap fun character =>
        if utf16Units character = 1 then [character] else ['\ufffd', '\ufffd']
      units.zipIdx.map fun indexed => (toString indexed.2, .string (String.singleton indexed.1))
  | _ => []

structure SessionMembers where
  members : List (String × Json) := []
  inherited : Option Json := none

namespace SessionMembers

def set (session : SessionMembers) (key : String) (value : Json) : SessionMembers :=
  { session with members := Record.setEntry key value session.members }

/-- Assign to a property; the one named `__proto__` is an accessor. -/
def assign (session : SessionMembers) (entry : String × Json) : SessionMembers :=
  if entry.1 = "__proto__" then
    if isObjectType entry.2 then { session with inherited := some entry.2 }
    else if entry.2 = .null then { session with inherited := none }
    else session
  else session.set entry.1 entry.2

def assignAll (session : SessionMembers) (source : Option Json) : SessionMembers :=
  ((source.map ownMembers).getD []).foldl assign session

/-- Set a limit to the field of its name, if that is a usable number. -/
def setLimit (data : Fields) (session : SessionMembers) (name : String) :
    Except ScriptError SessionMembers := do
  match ← safeNumber (data.field name) 0 vdxfMaxNumber with
  | some number => .ok (session.set name (.number number))
  | none => .ok session

end SessionMembers

def sessionLimits : List String :=
  ["duration", "tokenLimit", "imageLimit", "messageLimit", "maxFileSize"]

def decodeLegacySession (data : Fields) : Except ScriptError SessionMembers := do
  let params ← parsedDocument (data.field "params")
  let session ← sessionLimits.foldlM (SessionMembers.setLimit data)
    (SessionMembers.assignAll {} params)
  let allowedFileTypes ← parsedDocument (data.field "allowedFileTypes")
  match allowedFileTypes with
  | some types => .ok (session.set "allowedFileTypes" types)
  | none => .ok session

def decodeLegacyDocument (cmm : ContentMultimap) (parent group name : String) :
    Except ScriptError (Option Json) := do
  match ← legacyFields cmm parent (getReverseLookup group) with
  | some data => parsedDocument (data.field name)
  | none => .ok none

def legacyAgent : Option Fields → Except ScriptError (DecodedProfile × List DecodedService)
  | some data => decodeLegacyAgent data
  | none => .ok ({}, [])

def legacySession : Option Fields → Except ScriptError SessionMembers
  | some data => decodeLegacySession data
  | none => .ok {}

def shownSession (session : SessionMembers) : Option DecodedSession :=
  if session.members.isEmpty then none
  else some { value := .object session.members, inherited := session.inherited }

def decodeLegacyContentMultimap (cmm : ContentMultimap) : Except ScriptError Decoded := do
  let agentData ← legacyFields cmm ParentKeys.agent legacyAgentReverse
  let agent ← legacyAgent agentData
  let sessionData ← legacyFields cmm ParentKeys.session (getReverseLookup "session")
  let session ← legacySession sessionData
  let platformConfig ← decodeLegacyDocument cmm ParentKeys.platform "platform" "config"
  let workspaceCapability ← decodeLegacyDocument cmm ParentKeys.workspace "workspace" "capability"
  .ok {
    profile := { agent.1 with
      session := shownSession session
      platformConfig
      workspaceCapability }
    services := agent.2
    disputePolicy := none }

/-! ## Both formats -/

def isTruthy (value : Option Json) : Bool := value.any Json.truthy

def isLegacyFormat (cmm : ContentMultimap) : Bool :=
  isTruthy (cmm.get? ParentKeys.agent) &&
    !VdxfKeys.agent.any fun key => isTruthy (cmm.get? key.2)

def decodeContentMultimap (cmm : ContentMultimap) : Except ScriptError Decoded :=
  if isLegacyFormat cmm then decodeLegacyContentMultimap cmm else decodeFlatContentMultimap cmm

end SovAgent.Onboarding
