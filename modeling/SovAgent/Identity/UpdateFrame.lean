import SovAgent.Identity.UpdateOrder

/-! # What an identity update leaves as it is

The identity is rebuilt field by field. Two fields that the chain reports, the time lock and
the private address, are not part of `RawIdentityData`: a lock is lifted by every update.
-/

namespace SovAgent.Identity

open Onboarding

structure ReturnedIdentity extends RawIdentity where
  timelock : Option Json
  privateaddress : Option Json

inductive IdentityField where
  | version
  | flags
  | minimumsignatures
  | primaryaddresses
  | parent
  | name
  | contentmap
  | systemid
  | timelock
  | privateaddress
  | revocationauthority
  | recoveryauthority
deriving DecidableEq, Repr

def ReturnedIdentity.field (returned : ReturnedIdentity) : IdentityField → Option Json
  | .version => returned.version
  | .flags => returned.flags
  | .minimumsignatures => returned.minimumsignatures
  | .primaryaddresses => returned.primaryaddresses
  | .parent => returned.parent
  | .name => returned.name
  | .contentmap => returned.contentmap
  | .systemid => returned.systemid
  | .timelock => returned.timelock
  | .privateaddress => returned.privateaddress
  | .revocationauthority => returned.revocationauthority
  | .recoveryauthority => returned.recoveryauthority

def IdentityJson.field (written : IdentityJson) : IdentityField → Option Json
  | .version => some written.version
  | .flags => some written.flags
  | .minimumsignatures => written.minimumsignatures
  | .primaryaddresses => written.primaryaddresses
  | .parent => written.parent
  | .name => written.name
  | .contentmap => some written.contentmap
  | .systemid => written.systemid
  | .timelock => some written.timelock
  | .privateaddress => none
  | .revocationauthority => written.revocationauthority
  | .recoveryauthority => written.recoveryauthority

/-- The parameters change this field. -/
def IdentityUpdateParams.names (params : IdentityUpdateParams) : IdentityField → Bool
  | .revocationauthority => params.revocationauthority.any (· ≠ "")
  | .recoveryauthority => params.recoveryauthority.any (· ≠ "")
  | _ => false

/-- Every field that the parameters do not name is written as it was returned. -/
def Framed (library : TransactionLibrary) (params : IdentityUpdateParams)
    (returned : ReturnedIdentity) : Prop :=
  ∀ signed, params.identityData.identity = some returned.toRawIdentity →
    buildIdentityUpdateTx library params = .ok signed →
    ∀ field, params.names field = false → signed.identity.field field = returned.field field

/-! ## Fields that are kept -/

/-- An update writes this field back as it was returned. The time lock is written as zero, and
what is missing is written as a default. -/
def ReturnedIdentity.Survives (returned : ReturnedIdentity) : IdentityField → Prop
  | .timelock => returned.timelock = some (.number 0)
  | .privateaddress => returned.privateaddress = none
  | .version => returned.version.any (· ≠ .null) = true
  | .flags => returned.flags.any (· ≠ .null) = true
  | .contentmap => returned.contentmap.any Json.truthy = true
  | .systemid => returned.systemid.any Json.truthy = true ∨ returned.systemid = returned.parent
  | .minimumsignatures | .primaryaddresses | .parent | .name | .revocationauthority
  | .recoveryauthority => True

theorem orDefault_eq_iff {property : Option Json} {default : Json} (present : default ≠ .null) :
    some (orDefault property default) = property ↔ property.any (· ≠ .null) = true := by
  cases property with
  | none => simp
  | some value => cases value <;> simp [orDefault, present]

theorem filter_or_eq_iff (takes : Json → Bool) (property default : Option Json) :
    (property.filter takes).or default = property ↔
      property.any takes = true ∨ property = default := by
  cases property with
  | none => simp [eq_comm]
  | some value => cases taken : takes value <;> simp [Option.filter, taken, eq_comm]

theorem orProperty_unnamed {text : Option String} (unnamed : text.any (· ≠ "") = false)
    (property : Option Json) : orProperty text property = property := by
  cases text with
  | none => rfl
  | some text =>
      have empty : text = "" := by simpa using unnamed
      simp [orProperty, empty, Option.filter]

theorem updatedIdentity_field_iff (params : IdentityUpdateParams) (returned : ReturnedIdentity)
    (contentmultimap : Record String (List Json)) (field : IdentityField)
    (unnamed : params.names field = false) :
    (updatedIdentity params returned.toRawIdentity contentmultimap).field field =
      returned.field field ↔ returned.Survives field := by
  cases field with
  | timelock => exact eq_comm
  | privateaddress => exact eq_comm
  | version => exact orDefault_eq_iff (by decide)
  | flags => exact orDefault_eq_iff (by decide)
  | contentmap =>
      have whole := filter_or_eq_iff Json.truthy returned.contentmap (some (.object []))
      rw [Option.or_some] at whole
      apply whole.trans
      constructor
      · rintro (taken | empty)
        · exact taken
        · rw [ReturnedIdentity.Survives, empty]
          rfl
      · exact .inl
  | systemid => exact filter_or_eq_iff Json.truthy returned.systemid returned.parent
  | revocationauthority => exact iff_true_intro (orProperty_unnamed unnamed _)
  | recoveryauthority => exact iff_true_intro (orProperty_unnamed unnamed _)
  | minimumsignatures | primaryaddresses | parent | name => exact iff_true_intro rfl

theorem survives_of_named {params : IdentityUpdateParams} {returned : ReturnedIdentity}
    {field : IdentityField} (named : params.names field = true) : returned.Survives field := by
  cases field with
  | revocationauthority => trivial
  | recoveryauthority => trivial
  | version | flags | minimumsignatures | primaryaddresses | parent | name | contentmap
  | systemid | timelock | privateaddress => cases named

/-- The time lock has to be zero, the private address missing, and nothing else may be missing
that has a default. -/
theorem buildIdentityUpdateTx_framed_iff (library : TransactionLibrary)
    (params : IdentityUpdateParams) (returned : ReturnedIdentity) (signed : SignedUpdate)
    (reads : params.identityData.identity = some returned.toRawIdentity)
    (built : buildIdentityUpdateTx library params = .ok signed) :
    Framed library params returned ↔ ∀ field, returned.Survives field := by
  rcases buildIdentityUpdateTx_identity built with ⟨identity, contentmultimap, read, writes⟩
  cases reads.symm.trans read
  have survives := updatedIdentity_field_iff params returned contentmultimap
  rw [← writes] at survives
  constructor
  · intro framed field
    cases unnamed : params.names field with
    | true => exact survives_of_named unnamed
    | false => exact (survives field unnamed).mp (framed signed reads built field unnamed)
  · intro all other _ builds field unnamed
    cases built.symm.trans builds
    exact (survives field unnamed).mpr (all field)

private def lockedIdentity : ReturnedIdentity where
  version := some (.number 3)
  flags := some (.number 2)
  minimumsignatures := some (.number 1)
  primaryaddresses := some (.array [.string "Ragent"])
  parent := some (.string "iParent")
  name := some (.string "agent")
  contentmap := some (.object [])
  contentmultimap := none
  revocationauthority := some (.string "iAgent")
  recoveryauthority := some (.string "iAgent")
  systemid := some (.string "iSystem")
  timelock := some (.number 500)
  privateaddress := some (.string "zs1agent")

private def lockedStatusUpdate : IdentityUpdateParams where
  wif := "wif"
  identityData := ⟨some lockedIdentity.toRawIdentity, 100, some ⟨"aa", 0, "51", 0⟩⟩
  utxos := [⟨"bb", 1, 50000, none, none⟩]
  vdxfAdditions := .mk [(VdxfKeys.agentStatus, [makeSubDD VdxfKeys.agentStatus "active"])]
    (by decide)
  network := .verustest
  fee := defaultFee
  revocationauthority := none
  recoveryauthority := none
  clearContentmultimap := false
  expiryHeight := none

private theorem lockedStatusUpdate_builds :
    ∃ signed, buildIdentityUpdateTx keyedLibrary lockedStatusUpdate = .ok signed := by
  have builds : (buildIdentityUpdateTx keyedLibrary lockedStatusUpdate).toOption.isSome := by
    decide +kernel
  cases built : buildIdentityUpdateTx keyedLibrary lockedStatusUpdate with
  | ok signed => exact ⟨signed, rfl⟩
  | error error => simp [built, Except.toOption] at builds

/-- A status update writes the time lock as zero. -/
theorem status_update_resets_timelock :
    ¬ Framed keyedLibrary lockedStatusUpdate lockedIdentity := by
  intro framed
  rcases lockedStatusUpdate_builds with ⟨signed, built⟩
  have kept := framed signed rfl built .timelock rfl
  rcases buildIdentityUpdateTx_identity built with ⟨identity, contentmultimap, _, writes⟩
  rw [writes] at kept
  change some (Json.number 0) = some (Json.number 500) at kept
  exact absurd kept (by decide)

private def unlockedIdentity : ReturnedIdentity :=
  { lockedIdentity with timelock := some (.number 0), privateaddress := none }

/-- A status update leaves an unlocked identity as it is. -/
theorem status_update_keeps_unlocked : Framed keyedLibrary lockedStatusUpdate unlockedIdentity := by
  rcases lockedStatusUpdate_builds with ⟨signed, built⟩
  apply (buildIdentityUpdateTx_framed_iff keyedLibrary lockedStatusUpdate unlockedIdentity signed
    rfl built).mpr
  intro field
  cases field with
  | systemid => exact .inl (by decide)
  | version | flags | contentmap | timelock | privateaddress => rfl
  | minimumsignatures | primaryaddresses | parent | name | revocationauthority
  | recoveryauthority => trivial

end SovAgent.Identity
