import Mathlib.Data.List.Forall2
import Mathlib.Data.List.TakeDrop
import SovAgent.Foundation.Delimited
import SovAgent.Identity.UpdateContents
import SovAgent.Onboarding.VdxfKeys

/-! # Rewriting fields by reference

A caller names a field by its address, by its path or by its bare name. All
fields are resolved first and then written in one identity update.
-/

namespace SovAgent.Onboarding

open Identity

/-- What the plain objects of `VDXF_KEYS` inherit. -/
structure Prototypes where
  /-- The text of an inherited property of a group, when it is truthy. -/
  field : String → Option String
  /-- The same for a path into an inherited property of the table itself, whose
  getter may throw. -/
  path : String → String → Except Thrown (Option String)

section Resolve

variable (prototypes : Prototypes)

/-- `keys[field]`. -/
def groupField (keys : List (String × String)) (field : String) : Option String :=
  (keys.lookup field).or (prototypes.field field)

def resolvePath (group field : String) : Except Thrown (Option String) :=
  match VdxfKeys.groups.lookup group with
  | some keys => .ok (groupField prototypes keys field)
  | none => prototypes.path group field

/-- The groups that have the bare name, with its value there. -/
def bareMatches (ref : String) : List (String × String) :=
  VdxfKeys.groups.filterMap fun group =>
    (groupField prototypes group.2 ref).map fun address => (s!"{group.1}.{ref}", address)

def ambiguousField (ref : String) (candidates : List (String × String)) : Thrown :=
  let paths := ", ".intercalate (candidates.map Prod.fst)
  .error (s!"Ambiguous VDXF field '{ref}' — it exists in multiple namespaces: {paths}. " ++
    s!"Pass the namespaced path (e.g. 'review.{ref}') or the i-address.")

def resolveVdxfFieldRef (ref : String) : Except Thrown String :=
  if matchesIAddr ref then
    if ref ∈ VdxfKeys.addresses then .ok ref
    else .error (.error s!"Unknown VDXF i-address: {ref} (not in VDXF_KEYS)")
  else
    match ref.toList.span (· ≠ '.') with
    | (group, _ :: field) => do
        match ← resolvePath prototypes (String.ofList group) (String.ofList field) with
        | some address => .ok address
        | none => .error (.error s!"Unknown VDXF field path: {ref}")
    | (_, []) =>
        match bareMatches prototypes ref with
        | [] => .error (.error s!"Unknown VDXF field: {ref}")
        | [candidate] => .ok candidate.2
        | candidates => .error (ambiguousField ref candidates)

/-- The values to write, by resolved key; a later entry replaces an earlier one
under the same key. -/
def resolveFields : List (String × String) → Record String (List Json) →
    Except Thrown (Record String (List Json))
  | [], additions => .ok additions
  | (ref, value) :: rest, additions => do
      let address ← resolveVdxfFieldRef prototypes ref
      resolveFields rest (additions.set address [makeSubDD address value])

end Resolve

/-! ## The update -/

/-- The answers of the agent's client; `broadcast` is asked with the hex. -/
structure RewriteClient where
  getIdentityRaw : Except Thrown RawIdentityData
  getUtxos : Except Thrown (List Utxo)
  getChainInfo : Except Thrown Int
  broadcast : String → Except Thrown String

structure VdxfUpdateParams where
  fieldsToUpdate : Record String String
  chain : Network
  wif : String

/-- What was handed to the broadcast, and the txid that the call resolves to. -/
structure RewriteRun where
  broadcast : Option (Record String (List Json) × SignedUpdate)
  outcome : Except Thrown String

/-- Up to the transaction. -/
def buildRewrite (prototypes : Prototypes) (library : TransactionLibrary) (client : RewriteClient)
    (params : VdxfUpdateParams) : Except Thrown (Record String (List Json) × SignedUpdate) := do
  let writeAdditions ← resolveFields prototypes params.fieldsToUpdate.entries Record.empty
  let identityData ← client.getIdentityRaw
  let utxos ← client.getUtxos
  let blockHeight ← client.getChainInfo
  let signed ← buildIdentityUpdateTx library {
    wif := params.wif
    identityData
    utxos
    vdxfAdditions := writeAdditions
    network := params.chain
    fee := defaultFee
    revocationauthority := none
    recoveryauthority := none
    clearContentmultimap := false
    expiryHeight := some (blockHeight + identityExpiryDelta) }
  .ok (writeAdditions, signed)

def removeAndRewriteVdxfFields (prototypes : Prototypes) (library : TransactionLibrary)
    (client : RewriteClient) (params : VdxfUpdateParams) : RewriteRun :=
  match buildRewrite prototypes library client params with
  | .error error => ⟨none, .error error⟩
  | .ok built => ⟨some built, client.broadcast built.2.hex.text⟩

/-! ## What a reference denotes -/

/-- An address of the table denotes itself, a path the field of its group, and a
bare name the field of the one group that has it. -/
inductive Denotes : String → String → Prop
  | address {address} : address ∈ VdxfKeys.addresses → Denotes address address
  | path {group field keys address} :
      (group, keys) ∈ VdxfKeys.groups → (field, address) ∈ keys →
      Denotes s!"{group}.{field}" address
  | bare {group field keys address} :
      (group, keys) ∈ VdxfKeys.groups → (field, address) ∈ keys →
      (∀ other ∈ VdxfKeys.groups, field ∈ other.2.map Prod.fst → other = (group, keys)) →
      Denotes field address

namespace VdxfKeys

theorem mem_addresses {group field address : String} {keys : List (String × String)}
    (isGroup : (group, keys) ∈ groups) (isField : (field, address) ∈ keys) :
    address ∈ addresses :=
  List.mem_flatMap.mpr ⟨_, isGroup, List.mem_map_of_mem isField⟩

theorem mem_fieldNames {group field address : String} {keys : List (String × String)}
    (isGroup : (group, keys) ∈ groups) (isField : (field, address) ∈ keys) :
    field ∈ fieldNames :=
  List.mem_flatMap.mpr ⟨_, isGroup, List.mem_map_of_mem isField⟩

theorem groups_distinct : (groups.map Prod.fst).Nodup := by decide

theorem fields_distinct : ∀ group ∈ groups, (group.2.map Prod.fst).Nodup := by decide

theorem names_plain : (∀ group ∈ groups, '.' ∉ group.1.toList) ∧
    ∀ name ∈ fieldNames, '.' ∉ name.toList ∧ name ∉ addresses := by decide +kernel

theorem paths_plain : ∀ group ∈ groups, ∀ entry ∈ group.2,
    s!"{group.1}.{entry.1}" ∉ addresses := by decide +kernel

theorem address_unique {group field address other : String} {keys : List (String × String)}
    (isGroup : (group, keys) ∈ groups) (isField : (field, address) ∈ keys)
    (isOther : (field, other) ∈ keys) : address = other := by
  have found := (Record.lookup_eq_some_iff (fields_distinct _ isGroup)).mpr isField
  have foundOther := (Record.lookup_eq_some_iff (fields_distinct _ isGroup)).mpr isOther
  exact Option.some.inj (found.symm.trans foundOther)

theorem keys_unique {group : String} {keys other : List (String × String)}
    (isGroup : (group, keys) ∈ groups) (isOther : (group, other) ∈ groups) : keys = other := by
  have found := (Record.lookup_eq_some_iff groups_distinct).mpr isGroup
  have foundOther := (Record.lookup_eq_some_iff groups_distinct).mpr isOther
  exact Option.some.inj (found.symm.trans foundOther)

end VdxfKeys

theorem toList_path (group field : String) :
    (s!"{group}.{field}").toList = group.toList ++ '.' :: field.toList := by
  simp only [String.toList_append, toString_text, List.append_assoc]
  rfl

theorem path_inj {group otherGroup field otherField : String} (noDot : '.' ∉ group.toList)
    (noOtherDot : '.' ∉ otherGroup.toList)
    (same : s!"{group}.{field}" = s!"{otherGroup}.{otherField}") :
    group = otherGroup ∧ field = otherField := by
  have texts := congrArg String.toList same
  rw [toList_path, toList_path] at texts
  rcases Delimited.first_cons_inj texts noDot noOtherDot with ⟨groups, fields⟩
  exact ⟨String.toList_inj.mp groups, String.toList_inj.mp fields⟩

namespace Denotes

open VdxfKeys

variable {ref address : String}

theorem forms (denotes : Denotes ref address) :
    (ref ∈ addresses ∧ address = ref) ∨
    (∃ group field keys, (group, keys) ∈ groups ∧ (field, address) ∈ keys ∧
      ref = s!"{group}.{field}") ∨
    ∃ group keys, (group, keys) ∈ groups ∧ (ref, address) ∈ keys ∧
      ∀ other ∈ groups, ref ∈ other.2.map Prod.fst → other = (group, keys) := by
  cases denotes with
  | address member => exact .inl ⟨member, rfl⟩
  | path isGroup isField => exact .inr (.inl ⟨_, _, _, isGroup, isField, rfl⟩)
  | bare isGroup isField only => exact .inr (.inr ⟨_, _, isGroup, isField, only⟩)

theorem mem_addresses (denotes : Denotes ref address) : address ∈ addresses := by
  cases denotes with
  | address member => exact member
  | path isGroup isField => exact VdxfKeys.mem_addresses isGroup isField
  | bare isGroup isField only => exact VdxfKeys.mem_addresses isGroup isField

theorem dot_of_path {group field : String} : '.' ∈ (s!"{group}.{field}").toList := by
  rw [toList_path]
  exact List.mem_append_right _ List.mem_cons_self

theorem functional {other : String} (first : Denotes ref address) (second : Denotes ref other) :
    address = other := by
  rcases first.forms with ⟨isAddress, rfl⟩ | ⟨group, field, keys, isGroup, isField, path⟩ |
    ⟨group, keys, isGroup, isField, only⟩
  · rcases second.forms with ⟨_, rfl⟩ | ⟨group, field, keys, isGroup, isField, path⟩ |
      ⟨group, keys, isGroup, isField, _⟩
    · rfl
    · rw [path] at isAddress
      exact absurd isAddress (paths_plain _ isGroup _ isField)
    · exact absurd isAddress (names_plain.2 _ (mem_fieldNames isGroup isField)).2
  · rcases second.forms with ⟨isAddress, rfl⟩ |
      ⟨otherGroup, otherField, keys', isGroup', isField', path'⟩ |
      ⟨otherGroup, keys', isGroup', isField', _⟩
    · rw [path] at isAddress
      exact absurd isAddress (paths_plain _ isGroup _ isField)
    · rcases path_inj (names_plain.1 _ isGroup) (names_plain.1 _ isGroup') (path.symm.trans path')
        with ⟨rfl, rfl⟩
      cases keys_unique isGroup isGroup'
      exact address_unique isGroup isField isField'
    · have noDot := (names_plain.2 _ (mem_fieldNames isGroup' isField')).1
      rw [path] at noDot
      exact absurd dot_of_path noDot
  · rcases second.forms with ⟨isAddress, rfl⟩ |
      ⟨otherGroup, otherField, keys', isGroup', isField', path'⟩ |
      ⟨otherGroup, keys', isGroup', isField', _⟩
    · exact absurd isAddress (names_plain.2 _ (mem_fieldNames isGroup isField)).2
    · have noDot := (names_plain.2 _ (mem_fieldNames isGroup isField)).1
      rw [path'] at noDot
      exact absurd dot_of_path noDot
    · cases only _ isGroup' (List.mem_map_of_mem isField')
      exact address_unique isGroup isField isField'

end Denotes

/-! ## Resolution -/

/-- Only keys that decode can be written, and what the objects of the table
inherit does not decode. -/
structure RefusesForeign (library : TransactionLibrary) (prototypes : Prototypes) : Prop where
  decodes : ∀ identity script, library.identityScript identity = .ok script →
    ∀ key ∈ identity.contentmultimap.keys, (library.hash160Hex key).isSome
  field : ∀ name text, prototypes.field name = some text → library.hash160Hex text = none
  path : ∀ group field text, prototypes.path group field = .ok (some text) →
    library.hash160Hex text = none

section Resolution

variable {library : TransactionLibrary} {prototypes : Prototypes}

theorem groupField_own (refuses : RefusesForeign library prototypes)
    {keys : List (String × String)} {field address : String}
    (found : groupField prototypes keys field = some address)
    (decodes : (library.hash160Hex address).isSome) : keys.lookup field = some address := by
  unfold groupField at found
  cases own : keys.lookup field with
  | some other => simpa [own] using found
  | none =>
      rw [own, Option.none_or] at found
      rw [refuses.field _ _ found] at decodes
      cases decodes

theorem ref_of_span {ref : String} {group field : List Char} {dot : Char}
    (split : ref.toList.span (· ≠ '.') = (group, dot :: field)) :
    ref = s!"{String.ofList group}.{String.ofList field}" := by
  rw [List.span_eq_takeWhile_dropWhile, Prod.mk.injEq] at split
  have isDot := List.head?_dropWhile_not (· ≠ '.') ref.toList
  rw [split.2] at isDot
  have whole := @List.takeWhile_append_dropWhile _ (· ≠ '.') ref.toList
  rw [split.1, split.2] at whole
  apply String.toList_inj.mp
  rw [toList_path, String.toList_ofList, String.toList_ofList, ← whole]
  simp only [List.head?_cons, ne_eq, decide_not, Bool.not_eq_false', decide_eq_true_eq] at isDot
  rw [isDot]

theorem mem_bareMatches {ref : String} {group : String × List (String × String)}
    {address : String} (isGroup : group ∈ VdxfKeys.groups)
    (found : groupField prototypes group.2 ref = some address) :
    (s!"{group.1}.{ref}", address) ∈ bareMatches prototypes ref :=
  List.mem_filterMap.mpr ⟨group, isGroup, by rw [found]; rfl⟩

theorem denotes_of_resolves (refuses : RefusesForeign library prototypes) {ref address : String}
    (resolves : resolveVdxfFieldRef prototypes ref = .ok address)
    (decodes : (library.hash160Hex address).isSome) : Denotes ref address := by
  unfold resolveVdxfFieldRef at resolves
  split at resolves
  · split at resolves
    · rename_i member
      rw [← Except.ok.inj resolves]
      exact .address member
    · cases resolves
  · split at resolves
    · rename_i group dot field split
      rcases bind_eq_ok.mp resolves with ⟨found, paths, resolves⟩
      cases found with
      | none => cases resolves
      | some other =>
          cases resolves
          rw [ref_of_span split]
          unfold resolvePath at paths
          cases isGroup : VdxfKeys.groups.lookup (String.ofList group) with
          | none =>
              rw [isGroup] at paths
              rw [refuses.path _ _ _ paths] at decodes
              cases decodes
          | some keys =>
              rw [isGroup] at paths
              have groupMember := (Record.lookup_eq_some_iff VdxfKeys.groups_distinct).mp isGroup
              have own := groupField_own refuses (Except.ok.inj paths) decodes
              exact .path groupMember
                ((Record.lookup_eq_some_iff (VdxfKeys.fields_distinct _ groupMember)).mp own)
    · split at resolves
      · cases resolves
      · rename_i candidate only
        cases resolves
        have member : candidate ∈ bareMatches prototypes ref := by simp [only]
        rcases List.mem_filterMap.mp member with ⟨group, isGroup, found⟩
        rcases Option.map_eq_some_iff.mp found with ⟨address, isField, rfl⟩
        have own := groupField_own refuses isField decodes
        apply Denotes.bare isGroup
          ((Record.lookup_eq_some_iff (VdxfKeys.fields_distinct _ isGroup)).mp own)
        intro other otherGroup named
        rcases List.mem_map.mp named with ⟨entry, entryMember, rfl⟩
        have otherOwn := (Record.lookup_eq_some_iff (VdxfKeys.fields_distinct _ otherGroup)).mpr
          entryMember
        have otherField : groupField prototypes other.2 entry.1 = some entry.2 := by
          rw [groupField, otherOwn]
          rfl
        have otherMatch := mem_bareMatches otherGroup otherField
        rw [only, List.mem_singleton, Prod.mk.injEq] at otherMatch
        have sameGroup := (path_inj (VdxfKeys.names_plain.1 _ otherGroup)
          (VdxfKeys.names_plain.1 _ isGroup) otherMatch.1).1
        rcases other with ⟨otherName, otherKeys⟩
        cases sameGroup
        rw [VdxfKeys.keys_unique otherGroup isGroup]
      · cases resolves

end Resolution

/-! ## What is written -/

section Written

variable {library : TransactionLibrary} {prototypes : Prototypes}

def writes (fields : List (String × String)) (addresses : List String) :
    List (String × List Json) :=
  List.zipWith (fun field address => (address, [makeSubDD address field.2])) fields addresses

theorem resolveFields_eq_ok {fields : List (String × String)}
    {start additions : Record String (List Json)}
    (resolves : resolveFields prototypes fields start = .ok additions) :
    ∃ addresses, List.Forall₂ (fun field address =>
        resolveVdxfFieldRef prototypes field.1 = .ok address) fields addresses ∧
      additions =
        (writes fields addresses).foldl (fun record entry => record.set entry.1 entry.2) start := by
  induction fields generalizing start with
  | nil =>
      cases resolves
      exact ⟨[], .nil, rfl⟩
  | cons field fields induction =>
      rcases bind_eq_ok.mp resolves with ⟨address, first, rest⟩
      rcases induction rest with ⟨addresses, later, rfl⟩
      exact ⟨address :: addresses, .cons first later, rfl⟩

theorem map_fst_writes {fields : List (String × String)} {addresses : List String}
    (same : fields.length = addresses.length) :
    (writes fields addresses).map Prod.fst = addresses := by
  induction fields generalizing addresses with
  | nil => rw [List.length_eq_zero_iff.mp same.symm]; rfl
  | cons field fields induction =>
      cases addresses with
      | nil => cases same
      | cons address addresses =>
          have rest := induction (Nat.succ.inj same)
          simp only [writes] at rest
          simp only [writes, List.zipWith_cons_cons, List.map_cons, rest]

theorem mem_keys_foldl_set {entries : List (String × List Json)}
    {start : Record String (List Json)} {key : String} :
    key ∈ (entries.foldl (fun record entry => record.set entry.1 entry.2) start).keys ↔
      key ∈ entries.map Prod.fst ∨ key ∈ start.keys := by
  induction entries generalizing start with
  | nil => simp
  | cons head tail induction =>
      rw [List.foldl_cons, induction, Record.mem_keys_iff, Record.mem_keys_iff, Record.get?_set,
        List.map_cons, List.mem_cons]
      by_cases here : key = head.1 <;> simp [here, or_comm]

/-- No two references of the map denote the same key. -/
def Apart (fields : Record String String) : Prop :=
  fields.entries.Pairwise fun first second =>
    ∀ address, Denotes first.1 address → ¬ Denotes second.1 address

theorem mem_denoted {fields : List (String × String)} {addresses : List String}
    (denote : List.Forall₂ (fun field address => Denotes field.1 address) fields addresses)
    {address : String} : address ∈ addresses ↔ ∃ field ∈ fields, Denotes field.1 address := by
  induction denote with
  | nil => simp
  | @cons field other fields addresses denotes later induction =>
      rw [List.mem_cons, induction]
      constructor
      · intro member
        rcases member with rfl | ⟨second, secondMember, again⟩
        · exact ⟨field, List.mem_cons_self, denotes⟩
        · exact ⟨second, List.mem_cons_of_mem _ secondMember, again⟩
      · intro found
        rcases found with ⟨second, secondMember, again⟩
        rcases List.mem_cons.mp secondMember with rfl | deeper
        · exact .inl (again.functional denotes)
        · exact .inr ⟨second, deeper, again⟩

theorem nodup_iff_apart {fields : List (String × String)} {addresses : List String}
    (denote : List.Forall₂ (fun field address => Denotes field.1 address) fields addresses) :
    addresses.Nodup ↔ fields.Pairwise fun first second =>
      ∀ address, Denotes first.1 address → ¬ Denotes second.1 address := by
  induction denote with
  | nil => simp
  | @cons field address fields addresses denotes later induction =>
      rw [List.nodup_cons, List.pairwise_cons, induction, mem_denoted later]
      refine and_congr_left fun _ => ?_
      constructor
      · intro absent second member other first again
        rw [first.functional denotes] at again
        exact absent ⟨second, member, again⟩
      · intro apart found
        rcases found with ⟨second, member, again⟩
        exact apart second member address denotes again

/-- Every entry of the map is written under the key that its reference denotes,
none in the place of another and nothing else. -/
structure WritesWhatWasAsked (fields : Record String String)
    (additions : Record String (List Json)) (signed : SignedUpdate) : Prop where
  written : ∀ field ∈ fields.entries, ∃ address, Denotes field.1 address ∧
    additions.get? address = some [makeSubDD address field.2] ∧
    signed.identity.contentmultimap.get? address = some [makeSubDD address field.2]
  each : additions.keys.length = fields.entries.length
  known : ∀ key ∈ additions.keys, key ∈ VdxfKeys.addresses

theorem mem_writes {fields : List (String × String)} {addresses : List String}
    (denote : List.Forall₂ (fun field address => Denotes field.1 address) fields addresses)
    {field : String × String} (member : field ∈ fields) :
    ∃ address, Denotes field.1 address ∧
      (address, [makeSubDD address field.2]) ∈ writes fields addresses := by
  induction denote with
  | nil => cases member
  | cons denotes later induction =>
      rcases List.mem_cons.mp member with rfl | deeper
      · exact ⟨_, denotes, List.mem_cons_self⟩
      · rcases induction deeper with ⟨address, others, written⟩
        exact ⟨address, others, List.mem_cons_of_mem _ written⟩

theorem denoted_of_resolved (refuses : RefusesForeign library prototypes)
    {fields : List (String × String)} {addresses : List String}
    (each : List.Forall₂ (fun field address =>
      resolveVdxfFieldRef prototypes field.1 = .ok address) fields addresses)
    (decodes : ∀ address ∈ addresses, (library.hash160Hex address).isSome) :
    List.Forall₂ (fun field address => Denotes field.1 address) fields addresses := by
  induction each with
  | nil => exact .nil
  | cons resolves later induction =>
      apply List.Forall₂.cons
      · exact denotes_of_resolves refuses resolves (decodes _ List.mem_cons_self)
      · exact induction fun address member => decodes address (List.mem_cons_of_mem _ member)

theorem broadcast_eq_some {client : RewriteClient} {params : VdxfUpdateParams}
    {additions : Record String (List Json)} {signed : SignedUpdate}
    (sent : (removeAndRewriteVdxfFields prototypes library client params).broadcast =
      some (additions, signed)) :
    resolveFields prototypes params.fieldsToUpdate.entries Record.empty = .ok additions ∧
      ∃ update : IdentityUpdateParams, update.vdxfAdditions = additions ∧
        buildIdentityUpdateTx library update = .ok signed := by
  unfold removeAndRewriteVdxfFields at sent
  split at sent
  · cases sent
  · rename_i built builds
    cases sent
    simp only [buildRewrite, bind_eq_ok, Except.ok.injEq, Prod.mk.injEq] at builds
    rcases builds with ⟨_, resolves, _, _, _, _, _, _, _, builds, rfl, rfl⟩
    exact ⟨resolves, _, rfl, builds⟩

theorem built_carries (refuses : RefusesForeign library prototypes)
    {update : IdentityUpdateParams} {signed : SignedUpdate}
    (built : buildIdentityUpdateTx library update = .ok signed) :
    (∀ key values, update.vdxfAdditions.get? key = some values →
      signed.identity.contentmultimap.get? key = some values) ∧
    ∀ key ∈ update.vdxfAdditions.keys, (library.hash160Hex key).isSome := by
  rcases buildIdentityUpdateTx_builds built with ⟨_, identity, _, _, builds⟩
  have carries : ∀ key values, update.vdxfAdditions.get? key = some values →
      signed.identity.contentmultimap.get? key = some values := by
    intro key values found
    rw [updatedContentmultimap_get? builds.writes, found]
    rfl
  refine ⟨carries, fun key member => ?_⟩
  simp only [buildIdentityUpdateTx, bind_eq_ok, Except.ok.injEq] at built
  rcases built with ⟨_, _, _, _, _, _, map, _, script, scripts, _, _, _, _, _, _, _, _, _, _, _, _,
    rfl⟩
  apply refuses.decodes _ script scripts
  rcases Option.isSome_iff_exists.mp (Record.mem_keys_iff.mp member) with ⟨values, found⟩
  rw [Record.mem_keys_iff, carries key values found]
  rfl

theorem writes_iff_apart (refuses : RefusesForeign library prototypes) {client : RewriteClient}
    {params : VdxfUpdateParams} {additions : Record String (List Json)} {signed : SignedUpdate}
    (sent : (removeAndRewriteVdxfFields prototypes library client params).broadcast =
      some (additions, signed)) :
    WritesWhatWasAsked params.fieldsToUpdate additions signed ↔ Apart params.fieldsToUpdate := by
  rcases broadcast_eq_some sent with ⟨resolves, update, rfl, built⟩
  rcases built_carries refuses built with ⟨carries, decodes⟩
  rcases resolveFields_eq_ok resolves with ⟨addresses, each, folds⟩
  have length := each.length_eq
  have keys : ∀ key, key ∈ update.vdxfAdditions.keys ↔ key ∈ addresses := by
    intro key
    rw [folds, mem_keys_foldl_set, map_fst_writes length]
    simp [Record.keys, Record.empty]
  have denote : List.Forall₂ (fun field address => Denotes field.1 address)
      params.fieldsToUpdate.entries addresses :=
    denoted_of_resolved refuses each fun address member =>
      decodes address ((keys address).mpr member)
  rw [Apart, ← nodup_iff_apart denote]
  constructor
  · intro writes
    have perm : update.vdxfAdditions.keys.Perm addresses := by
      apply (List.subperm_of_subset update.vdxfAdditions.distinct fun key =>
        (keys key).mp).perm_of_length_le
      rw [← length, ← writes.each]
      exact Nat.le_refl _
    exact perm.nodup_iff.mp update.vdxfAdditions.distinct
  · intro distinct
    refine ⟨?_, ?_, ?_⟩
    · intro field member
      rcases mem_writes denote member with ⟨address, denotes, written⟩
      have found : update.vdxfAdditions.get? address = some [makeSubDD address field.2] := by
        rw [← map_fst_writes length] at distinct
        rw [folds, Record.get?_foldl_set _ distinct,
          (Record.lookup_eq_some_iff distinct).mpr written]
        rfl
      exact ⟨address, denotes, found, carries _ _ found⟩
    · rw [length]
      exact ((List.perm_ext_iff_of_nodup update.vdxfAdditions.distinct distinct).mpr keys).length_eq
    · intro key member
      rcases (mem_denoted denote).mp ((keys key).mp member) with ⟨_, _, denotes⟩
      exact denotes.mem_addresses

/-- Either nothing is broadcast, or what was asked for. -/
def RewriteRun.WritesExactly (run : RewriteRun) (fields : Record String String) : Prop :=
  ∀ additions signed, run.broadcast = some (additions, signed) →
    WritesWhatWasAsked fields additions signed

/-- A call writes what was asked exactly when no two references denote the same
key, or when it throws before the broadcast. -/
theorem removeAndRewriteVdxfFields_exact_iff (refuses : RefusesForeign library prototypes)
    (client : RewriteClient) (params : VdxfUpdateParams) :
    (removeAndRewriteVdxfFields prototypes library client params).WritesExactly
        params.fieldsToUpdate ↔
      Apart params.fieldsToUpdate ∨
        (removeAndRewriteVdxfFields prototypes library client params).broadcast = none := by
  cases sent : (removeAndRewriteVdxfFields prototypes library client params).broadcast with
  | none => simp [RewriteRun.WritesExactly, sent]
  | some built =>
      rcases built with ⟨additions, signed⟩
      rw [← writes_iff_apart refuses sent, or_iff_left (by simp)]
      constructor
      · exact fun writes => writes additions signed sent
      · intro writes other otherSigned otherSent
        cases sent.symm.trans otherSent
        exact writes

end Written

private def plainPrototypes : Prototypes where
  field name :=
    if name ∈ ["constructor", "hasOwnProperty", "toString", "valueOf"] then
      some "function () \x7b [native code] \x7d"
    else none
  path group field := .ok (if group = "constructor" ∧ field = "name" then some "Object" else none)

private def knownKeysLibrary : TransactionLibrary where
  hash160Hex key := if key ∈ VdxfKeys.addresses then some key else none
  identityScript identity :=
    if ∀ key ∈ identity.contentmultimap.keys, key ∈ VdxfKeys.addresses then .ok "51"
    else .error (.error "Invalid checksum")
  keyAddress _ _ := .ok "Ragent"
  outputScript _ _ := .ok "76"
  sign _ _ _ := .ok ⟨"0401", by decide⟩

private theorem knownKeysLibrary_refuses : RefusesForeign knownKeysLibrary plainPrototypes where
  decodes identity script scripts key member := by
    simp only [knownKeysLibrary] at scripts ⊢
    split at scripts
    · rename_i known
      rw [if_pos (known key member)]
      rfl
    · cases scripts
  field name text inherits := by
    simp only [plainPrototypes] at inherits
    split at inherits
    · cases inherits
      decide +kernel
    · cases inherits
  path group field text inherits := by
    simp only [plainPrototypes, Except.ok.injEq] at inherits
    split at inherits
    · cases inherits
      decide +kernel
    · cases inherits

private def rewriteClient : RewriteClient where
  getIdentityRaw := .ok {
    identity := some {
      version := none
      flags := none
      minimumsignatures := some (.number 1)
      primaryaddresses := some (.array [.string "Ragent"])
      parent := none
      name := some (.string "agent")
      contentmap := none
      contentmultimap := none
      revocationauthority := none
      recoveryauthority := none
      systemid := none }
    blockHeight := 100
    prevOutput := some ⟨"aa", 0, "51", 0⟩ }
  getUtxos := .ok [⟨"bb", 1, 50000, none, none⟩]
  getChainInfo := .ok 120
  broadcast _ := .ok "txid"

private def rewriteOf (fields : Record String String) : VdxfUpdateParams :=
  ⟨fields, .verustest, "wif"⟩

private def threeForms : Record String String :=
  .mk [("displayName", "First"), (VdxfKeys.agentStatus, "active"), ("agent.description", "Second")]
    (by decide)

private def threeKeys : Record String (List Json) :=
  .mk [(VdxfKeys.agentDisplayName, [makeSubDD VdxfKeys.agentDisplayName "First"]),
      (VdxfKeys.agentStatus, [makeSubDD VdxfKeys.agentStatus "active"]),
      (VdxfKeys.agentDescription, [makeSubDD VdxfKeys.agentDescription "Second"])]
    (by decide)

private def nameTwice : Record String String :=
  .mk [("displayName", "First"), ("agent.displayName", "Second")] (by decide)

private theorem threeForms_apart : Apart threeForms := by
  have name : Denotes "displayName" VdxfKeys.agentDisplayName :=
    .bare (List.getElem_mem (by decide : 0 < VdxfKeys.groups.length)) (by decide) (by decide)
  have address : Denotes VdxfKeys.agentStatus VdxfKeys.agentStatus := .address (by decide)
  have path : Denotes "agent.description" VdxfKeys.agentDescription :=
    @Denotes.path "agent" "description" VdxfKeys.agent _
      (List.getElem_mem (by decide : 0 < VdxfKeys.groups.length)) (by decide)
  have differ {first second firstKey secondKey : String} (left : Denotes first firstKey)
      (right : Denotes second secondKey) (apart : firstKey ≠ secondKey) :
      ∀ key, Denotes first key → ¬Denotes second key := fun _ one two =>
    apart ((left.functional one).trans (right.functional two).symm)
  refine .cons ?_ (.cons ?_ (List.pairwise_singleton _ _))
  · simp only [List.forall_mem_cons]
    exact ⟨differ name address (by decide), differ name path (by decide), List.forall_mem_nil _⟩
  · simp only [List.forall_mem_cons]
    exact ⟨differ address path (by decide), List.forall_mem_nil _⟩

private theorem threeForms_builds : ∃ signed,
    buildRewrite plainPrototypes knownKeysLibrary rewriteClient (rewriteOf threeForms) =
      .ok (threeKeys, signed) := by
  have resolves :
      resolveFields plainPrototypes threeForms.entries Record.empty = .ok threeKeys := by
    rfl
  have sized : assertContentmultimapValueSizes threeKeys = .ok () := by rfl
  have updates : updatedContentmultimap knownKeysLibrary.hash160Hex false none threeKeys =
      .ok threeKeys := by
    have sorted : sortByHash160 knownKeysLibrary.hash160Hex threeKeys = .ok threeKeys := by
      rw [sortByHash160, if_neg (by decide), if_pos (by decide),
        Record.sortKeys_of_pairwise (by decide)]
    rw [updatedContentmultimap, sized]
    exact sorted
  have selects : selectUtxos [⟨"bb", 1, 50000, none, none⟩] defaultFee =
      .ok ([⟨"bb", 1, 50000, none, none⟩], 50000) := by
    rw [selectUtxos, selectUtxosIn, List.mergeSort_singleton]
    rfl
  have scripts (params : IdentityUpdateParams) (identity : RawIdentity) :
      knownKeysLibrary.identityScript (updatedIdentity params identity threeKeys) = .ok "51" := by
    have known : ∀ key ∈ threeKeys.keys, key ∈ VdxfKeys.addresses := by decide
    simp only [knownKeysLibrary]
    exact if_pos known
  simp only [buildRewrite, buildIdentityUpdateTx, bind_eq_ok, exists_unit, require_eq_ok,
    requireSome_eq_ok, Except.ok.injEq, Prod.mk.injEq]
  exact ⟨_, _, resolves, _, rfl, _, rfl, _, rfl, _, ⟨_, rfl, _, rfl, by simp, _, updates, _,
    scripts _ _, _, rfl, _, rfl, by decide +kernel, by decide +kernel, _, selects, _, rfl,
    rfl⟩, rfl, rfl⟩

theorem removeAndRewriteVdxfFields_exact_three_forms :
    ∃ additions signed,
      (removeAndRewriteVdxfFields plainPrototypes knownKeysLibrary rewriteClient
        (rewriteOf threeForms)).broadcast = some (additions, signed) ∧
      WritesWhatWasAsked threeForms additions signed := by
  rcases threeForms_builds with ⟨signed, builds⟩
  have sent : (removeAndRewriteVdxfFields plainPrototypes knownKeysLibrary rewriteClient
      (rewriteOf threeForms)).broadcast = some (threeKeys, signed) := by
    rw [removeAndRewriteVdxfFields, builds]
  exact ⟨threeKeys, signed, sent, (removeAndRewriteVdxfFields_exact_iff knownKeysLibrary_refuses
    rewriteClient (rewriteOf threeForms)).mpr (.inl threeForms_apart) threeKeys signed sent⟩

/-- The bare name and the path denote one key, and the first value is dropped. -/
theorem name_written_twice :
    ∃ additions signed,
      (removeAndRewriteVdxfFields plainPrototypes knownKeysLibrary rewriteClient
        (rewriteOf nameTwice)).broadcast = some (additions, signed) ∧
      additions.entries = [(VdxfKeys.agentDisplayName,
        [makeSubDD VdxfKeys.agentDisplayName "Second"])] ∧
      ¬ WritesWhatWasAsked nameTwice additions signed := by
  have sent : ((removeAndRewriteVdxfFields plainPrototypes knownKeysLibrary rewriteClient
      (rewriteOf nameTwice)).broadcast.map fun sent => sent.1.entries) =
        some [(VdxfKeys.agentDisplayName, [makeSubDD VdxfKeys.agentDisplayName "Second"])] := by
    decide +kernel
  rcases Option.map_eq_some_iff.mp sent with ⟨⟨additions, signed⟩, sent, entries⟩
  refine ⟨additions, signed, sent, entries, fun writes => ?_⟩
  have each := writes.each
  rw [Record.keys, entries] at each
  cases each

end SovAgent.Onboarding
