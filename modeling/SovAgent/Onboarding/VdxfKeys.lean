import SovAgent.Onboarding.Vdxf

/-! # The table of VDXF keys -/

namespace SovAgent.Onboarding

namespace VdxfKeys

def agentDisplayName : String := "iKkdwxhdupLgf7v2qn4JGBQHntsBb17kjW"
def agentType : String := "iNxeLSDFARVQezfEt4i8CBZjTSRpFTPAyP"
def agentDescription : String := "iQr3yKEn2DXaG4GQGVAVYivC3jwcvScfzk"
def agentPayAddress : String := "iRxxUvbDXJT5wVpnx7oc9nkYALCoDh6aTD"
def agentServices : String := "i8Wk7fcbsBWtcf965Z3WvDUjahF1aTH1tu"
def agentModels : String := "iQJUQmdFSmM49cvLJfKLZnuRYsjXSmTTHY"
def agentMarkup : String := "iBLx3rga8DewiN6gyQyC5avFin8fnnojnS"
def agentNetworkCapabilities : String := "iF7174LxgcAnu3qZ7iJzSyJYthDJXBzQNw"
def agentNetworkEndpoints : String := "i5VzGsiFmJYuRr7b8aUyHzAS8vd9DC4puS"
def agentNetworkProtocols : String := "iSAVTXMb9TyWWuDDnWopFhgZpjm21WPigv"
def agentProfileTags : String := "iKM57qfzmgM1sxBgR3XBQa2XCRURZ2YVo2"
def agentProfileWebsite : String := "i7HY93tqfqCkpyKYiNtcDbioAgF8gRL9TQ"
def agentProfileAvatar : String := "iALo91Z75iXZxMvymvQMRwo7GAeHv5veKc"
def agentProfileCategory : String := "iD3quozCGbzJyZ29uvRCeecr12np2dMsvN"
def agentDisputePolicy : String := "iFxerhcrMr2e5eWyvHiXuWHXj2dnhEZF8p"
def serviceSchema : String := "i4D2ifpAG7BYnfJZGVT1Tph7BMkp9qZPyS"
def bountyRecord : String := "i6PC1B9vgVf8bLtHcdsNunLtr6ibtnL7ZC"
def bountyApplication : String := "iE8Z7gZmAs4NU8AqEJzV9MWHUCoUBQqfum"
def platformConfig : String := "iMs3n1aCWQh5rmkXCNLRi8WqbzZrq3F7Ye"
def sessionParams : String := "iHjLTt9P8Jb1uCYSpVpwXFbwzbPYWW4n8p"
def workspaceAttestation : String := "i8xp9AgvueoAHyYXbxNACMgRQfEXF82V5D"
def workspaceCapability : String := "iMxAXRfTWUkKBmLGEZtEJbKj58kDi1GjZ9"

def agent : List (String × String) := [
  ("displayName", agentDisplayName),
  ("type", agentType),
  ("description", agentDescription),
  ("status", agentStatus),
  ("payAddress", agentPayAddress),
  ("services", agentServices),
  ("models", agentModels),
  ("markup", agentMarkup),
  ("networkCapabilities", agentNetworkCapabilities),
  ("networkEndpoints", agentNetworkEndpoints),
  ("networkProtocols", agentNetworkProtocols),
  ("profileTags", agentProfileTags),
  ("profileWebsite", agentProfileWebsite),
  ("profileAvatar", agentProfileAvatar),
  ("profileCategory", agentProfileCategory),
  ("disputePolicy", agentDisputePolicy)]

def groups : List (String × List (String × String)) := [
  ("agent", agent),
  ("service", [("schema", serviceSchema)]),
  ("review", [("record", reviewRecord), ("attestation", reviewAttestation)]),
  ("bounty", [("record", bountyRecord), ("application", bountyApplication)]),
  ("platform", [("config", platformConfig)]),
  ("session", [("params", sessionParams)]),
  ("workspace", [("attestation", workspaceAttestation), ("capability", workspaceCapability)]),
  ("job", [("record", jobRecord)])]

def addresses : List String := groups.flatMap fun group => group.2.map Prod.snd

def fieldNames : List String := groups.flatMap fun group => group.2.map Prod.fst

end VdxfKeys

def matchesIAddr (text : String) : Bool :=
  match text.toList with
  | 'i' :: rest => rest.length = 33 ∧ rest.all isBase58
  | _ => false

end SovAgent.Onboarding
