import Mathlib.Data.Finset.Card
import SovAgent.Crypto.CanonicalOrder
import SovAgent.Crypto.EnvelopeTamper
import SovAgent.Identity.HexText
import SovAgent.Identity.LengthPrefix

/-! # Witnesses of job records

The platform signs the record of a job with an identity. What is signed binds the record
to the chain, the height and the identity, and the verifier builds it anew.
-/

namespace SovAgent.Identity

/-! ## The library -/

/-- The fields of an `IdentitySignature` that are read. -/
structure IdentitySignature where
  version : Nat
  blockHeight : Nat
  signatures : List Bytes

/-- What `crypto`, `json-canonicalize` and `utxo-lib` do. -/
structure WitnessPrimitives where
  sha256 : Bytes → Bytes
  canonicalize : Json → String
  /-- `fromBase58Check(address).hash`. -/
  fromBase58Check : String → Except String Bytes
  /-- `fromBuffer` of a new signature on a network. -/
  fromBuffer : Network → (blob : Bytes) → (chainId identity : String) →
    Except String IdentitySignature
  verifyHashOffline : Network → IdentitySignature → (hash : Bytes) → (address : Json) →
    Except String (List Bool)

/-- The fields of a `WitnessBlock` that are read. -/
structure WitnessBlock where
  signedBy : String
  signature : String
  signatureHeight : Json
  algorithm : String

def chainId : Network → String
  | .verustest => "iJhCezBExJHvtyH3fGhNnt2NhU4Ztkf2yq"
  | .verus => "i5w5MuNik5NtLcYmNzcvaoixooEebB6MGV"

def prefixVarslice : Bytes := (varSlice verusPrefixBytes).toOption.getD []

example : prefixVarslice = 0x13 :: verusPrefixBytes := by decide +kernel

section Code

variable (library : WitnessPrimitives)

/-! ## The signed hash -/

def jcsDatahash (record : Json) : String :=
  hex (library.sha256 (utf8 (library.canonicalize record)))

/-- What `boundHash` hashes. -/
def boundText (chainIdStr identityStr : String) (blockHeight : Nat) (datahash : Bytes) :
    Except String Bytes := do
  let chainId ← library.fromBase58Check chainIdStr
  let identity ← library.fromBase58Check identityStr
  let heightBuf ← writeUInt32LE blockHeight
  .ok (chainId ++ heightBuf ++ identity ++ prefixVarslice ++ datahash)

def boundHash (chainIdStr identityStr : String) (blockHeight : Nat) (datahash : Bytes) :
    Except String Bytes :=
  (boundText library chainIdStr identityStr blockHeight datahash).map library.sha256

/-! ## The verifier -/

def primaryAddresses (keys : Json) : List Json :=
  match keys.get? "primaryAddresses" with
  | some (.array addresses) => addresses
  | _ => []

def minSigs (keys : Json) : Decimal :=
  match keys.get? "minimumSignatures" with
  | some (.number minimum) => if 0 < minimum.toRat then minimum else 1
  | _ => 1

def heightDiffers (signatureHeight : Json) (blockHeight : Nat) : Bool :=
  match signatureHeight with
  | .number height => height ≠ .ofInt blockHeight
  | _ => false

/-- `matchedAddresses` after the loop. -/
def matchedAddresses (verify : Json → Except String (List Bool)) :
    (matched addresses : List Json) → Except String (List Json)
  | matched, [] => .ok matched
  | matched, addr :: rest => do
      let results ← verify addr
      matchedAddresses verify (if true ∈ results then matched.insert addr else matched) rest

def thrownReason (message : String) : String := s!"error:{message}"

def verifyWitness (record : Json) (witness : WitnessBlock)
    (getIdentityKeys : String → Except String Json) (network : Network) : Except String Unit := do
  require (witness.algorithm = "verusid-signdata-sha256") "unsupported_algorithm"
  let datahash := fromHex (jcsDatahash library record)
  let idSig ← (library.fromBuffer network (Base64.decode witness.signature) (chainId network)
    witness.signedBy).mapError thrownReason
  require (idSig.version = 2) "unsupported_signature_version"
  require (idSig.signatures ≠ []) "no_signatures"
  require (heightDiffers witness.signatureHeight idSig.blockHeight = false) "height_mismatch"
  let keys ← (getIdentityKeys witness.signedBy).mapError thrownReason
  require (primaryAddresses keys ≠ []) "no_signer_addresses"
  let hash ← (boundHash library (chainId network) witness.signedBy idSig.blockHeight
    datahash).mapError thrownReason
  let matched ← (matchedAddresses (library.verifyHashOffline network idSig hash) []
    (primaryAddresses keys)).mapError thrownReason
  require ((minSigs keys).toRat ≤ matched.length)
    s!"insufficient_signatures: {matched.length}/{(minSigs keys).toString}"

end Code

/-! ## What the signed hash binds -/

/-- What a witness says: that an identity of a chain vouches for a record at a height. -/
structure WitnessStatement where
  network : Network
  identity : String
  height : Nat
  record : Json

namespace WitnessStatement

variable (library : WitnessPrimitives)

/-- `canonicalize(record)`, hashed. -/
def digest (statement : WitnessStatement) : Bytes :=
  library.sha256 (utf8 (library.canonicalize statement.record))

def text (statement : WitnessStatement) : Except String Bytes :=
  boundText library (chainId statement.network) statement.identity statement.height
    (statement.digest library)

def hash (statement : WitnessStatement) : Except String Bytes :=
  (statement.text library).map library.sha256

/-- Two statements are of one record, by one identity, on one chain, at one height. -/
structure Same (first second : WitnessStatement) : Prop where
  network : first.network = second.network
  identity : library.fromBase58Check first.identity = library.fromBase58Check second.identity
  height : first.height = second.height
  record : first.record.sorted = second.record.sorted

def hashed (statements : Set WitnessStatement) : Set Bytes :=
  { text | ∃ statement ∈ statements,
    text = utf8 (library.canonicalize statement.record) ∨ statement.text library = .ok text }

end WitnessStatement

/-- What is documented of the library: addresses hold 20 bytes, those of the two chains are
different, and the text of a record is the canonical one. -/
structure WitnessPrimitives.Lawful (library : WitnessPrimitives) : Prop where
  length : ∀ {address hash}, library.fromBase58Check address = .ok hash → hash.length = 20
  chains : library.fromBase58Check (chainId .verus) ≠ library.fromBase58Check (chainId .verustest)
  canonical : Crypto.Canonicalizes library.canonicalize

theorem writeUInt32LE_eq_ok {value : Nat} {bytes : Bytes} :
    writeUInt32LE value = .ok bytes ↔ value < 256 ^ 4 ∧ lowBytes 4 value = bytes := by
  rw [writeUInt32LE]
  split
  · rename_i fits
    simp [Nat.lt_succ_of_le fits]
  · rename_i large
    have outside : ¬ value < 256 ^ 4 := by omega
    apply iff_of_false
    · intro written
      cases written
    · exact fun fits => outside fits.1

theorem lowBytes_inj {count left right : Nat} (leftFits : left < 256 ^ count)
    (rightFits : right < 256 ^ count) (same : lowBytes count left = lowBytes count right) :
    left = right := by
  rw [← Nat.mod_eq_of_lt leftFits, ← Nat.mod_eq_of_lt rightFits, ← ofLowBytes_lowBytes,
    ← ofLowBytes_lowBytes, same]

theorem boundText_eq_ok {library : WitnessPrimitives} {chainIdStr identityStr : String}
    {blockHeight : Nat} {datahash text : Bytes} :
    boundText library chainIdStr identityStr blockHeight datahash = .ok text ↔
      ∃ chainId identity, library.fromBase58Check chainIdStr = .ok chainId ∧
        library.fromBase58Check identityStr = .ok identity ∧ blockHeight < 256 ^ 4 ∧
        chainId ++ lowBytes 4 blockHeight ++ identity ++ prefixVarslice ++ datahash = text := by
  simp only [boundText, bind_eq_ok, writeUInt32LE_eq_ok, Except.ok.injEq]
  constructor
  · rintro ⟨chainId, chain, identity, signer, _, ⟨fits, rfl⟩, whole⟩
    exact ⟨chainId, identity, chain, signer, fits, whole⟩
  · rintro ⟨chainId, identity, chain, signer, fits, whole⟩
    exact ⟨chainId, chain, identity, signer, _, ⟨fits, rfl⟩, whole⟩

theorem boundText_inj {library : WitnessPrimitives} (lawful : library.Lawful)
    {chain chain' identity identity' : String} {height height' : Nat}
    {datahash datahash' text : Bytes}
    (first : boundText library chain identity height datahash = .ok text)
    (second : boundText library chain' identity' height' datahash' = .ok text) :
    library.fromBase58Check chain = library.fromBase58Check chain' ∧
      library.fromBase58Check identity = library.fromBase58Check identity' ∧
      height = height' ∧ datahash = datahash' := by
  rcases boundText_eq_ok.mp first with ⟨chainHash, identityHash, onChain, signer, fits, whole⟩
  rcases boundText_eq_ok.mp second
    with ⟨chainHash', identityHash', onChain', signer', fits', whole'⟩
  have chainLength := (lawful.length onChain).trans (lawful.length onChain').symm
  have identityLength := (lawful.length signer).trans (lawful.length signer').symm
  rw [← whole'] at whole
  simp only [List.append_assoc] at whole
  have chains := List.append_inj whole chainLength
  have heights := List.append_inj chains.2 (by rw [length_lowBytes, length_lowBytes])
  have identities := List.append_inj heights.2 identityLength
  refine ⟨?_, ?_, lowBytes_inj fits fits' heights.1, List.append_cancel_left identities.2⟩
  · rw [onChain, onChain', chains.1]
  · rw [signer, signer', identities.1]

namespace WitnessStatement

variable {library : WitnessPrimitives}

theorem network_inj (lawful : library.Lawful) {first second : Network}
    (same : library.fromBase58Check (chainId first) = library.fromBase58Check (chainId second)) :
    first = second := by
  cases first with
  | verus =>
      cases second with
      | verus => rfl
      | verustest => exact absurd same lawful.chains
  | verustest =>
      cases second with
      | verus => exact absurd same.symm lawful.chains
      | verustest => rfl

theorem same_of_hash (lawful : library.Lawful) {statements : Set WitnessStatement}
    (noCollision : Set.InjOn library.sha256 (hashed library statements))
    {first second : WitnessStatement} (firstMember : first ∈ statements)
    (secondMember : second ∈ statements) (firstDistinct : first.record.Distinct)
    (secondDistinct : second.record.Distinct) {digest : Bytes}
    (firstHash : first.hash library = .ok digest) (secondHash : second.hash library = .ok digest) :
    Same library first second := by
  rcases map_eq_ok.mp firstHash with ⟨firstText, firstBound, rfl⟩
  rcases map_eq_ok.mp secondHash with ⟨secondText, secondBound, equal⟩
  have texts : secondText = firstText :=
    noCollision ⟨second, secondMember, .inr secondBound⟩ ⟨first, firstMember, .inr firstBound⟩
      equal
  rw [texts] at secondBound
  have parts := boundText_inj lawful firstBound secondBound
  have records : library.canonicalize first.record = library.canonicalize second.record := by
    apply Crypto.utf8_injective
    exact noCollision ⟨first, firstMember, .inl rfl⟩ ⟨second, secondMember, .inl rfl⟩
      parts.2.2.2
  rw [lawful.canonical _ firstDistinct, lawful.canonical _ secondDistinct] at records
  exact {
    network := network_inj lawful parts.1
    identity := parts.2.1
    height := parts.2.2.1
    record := Json.stringify_inj (Json.distinct_sorted _ firstDistinct)
      (Json.distinct_sorted _ secondDistinct) records }

end WitnessStatement

/-! ## What a verified witness says -/

theorem matchedAddresses_sound {verify : Json → Except String (List Bool)}
    {matched addresses result : List Json}
    (walked : matchedAddresses verify matched addresses = .ok result) (distinct : matched.Nodup) :
    result.Nodup ∧ ∀ address ∈ result, address ∈ matched ∨
      address ∈ addresses ∧ ∃ results, verify address = .ok results ∧ true ∈ results := by
  induction addresses generalizing matched with
  | nil =>
      cases walked
      exact ⟨distinct, fun address member => .inl member⟩
  | cons addr rest induction =>
      rcases bind_eq_ok.mp walked with ⟨results, answered, walked⟩
      by_cases signed : true ∈ results
      · rw [if_pos signed] at walked
        have later := induction walked distinct.insert
        refine ⟨later.1, ?_⟩
        intro address member
        rcases later.2 address member with before | after
        · rcases List.mem_insert_iff.mp before with rfl | before
          · exact .inr ⟨List.mem_cons_self, results, answered, signed⟩
          · exact .inl before
        · exact .inr ⟨List.mem_cons_of_mem addr after.1, after.2⟩
      · rw [if_neg signed] at walked
        have later := induction walked distinct
        refine ⟨later.1, ?_⟩
        intro address member
        apply (later.2 address member).imp_right
        exact fun after => ⟨List.mem_cons_of_mem addr after.1, after.2⟩

theorem minSigs_pos (keys : Json) : 0 < (minSigs keys).toRat := by
  have one : 0 < (1 : Decimal).toRat := by decide +kernel
  rw [minSigs]
  split
  · split
    · assumption
    · exact one
  · exact one

theorem heightDiffers_eq_false {signatureHeight : Json} {blockHeight : Nat} {height : Decimal}
    (agrees : heightDiffers signatureHeight blockHeight = false)
    (named : signatureHeight = .number height) : height = .ofInt blockHeight := by
  rw [named] at agrees
  exact not_not.mp (of_decide_eq_false agrees)

theorem verifyWitness_eq_ok {library : WitnessPrimitives} {record : Json} {witness : WitnessBlock}
    {getIdentityKeys : String → Except String Json} {network : Network} :
    verifyWitness library record witness getIdentityKeys network = .ok () ↔
      witness.algorithm = "verusid-signdata-sha256" ∧ ∃ idSig,
        library.fromBuffer network (Base64.decode witness.signature) (chainId network)
          witness.signedBy = .ok idSig ∧
        idSig.version = 2 ∧ idSig.signatures ≠ [] ∧
        heightDiffers witness.signatureHeight idSig.blockHeight = false ∧ ∃ keys,
          getIdentityKeys witness.signedBy = .ok keys ∧ primaryAddresses keys ≠ [] ∧ ∃ hash,
            WitnessStatement.hash library
              ⟨network, witness.signedBy, idSig.blockHeight, record⟩ = .ok hash ∧ ∃ matched,
              matchedAddresses (library.verifyHashOffline network idSig hash) []
                (primaryAddresses keys) = .ok matched ∧
              (minSigs keys).toRat ≤ matched.length := by
  simp only [verifyWitness, bind_eq_ok, exists_unit, require_eq_ok, mapError_eq_ok, jcsDatahash,
    fromHex_hex]
  rfl

/-- A hash that verifies against an address is of a statement that its key has signed. -/
def WitnessPrimitives.Unforgeable (library : WitnessPrimitives)
    (attested : Json → WitnessStatement → Prop) : Prop :=
  ∀ network idSig hash address results,
    library.verifyHashOffline network idSig hash address = .ok results → true ∈ results →
      ∃ statement, attested address statement ∧ statement.record.Distinct ∧
        statement.hash library = .ok hash

/-- A verified witness is the word of as many of the identity's addresses as it asks for, and
each has signed for this record, on this chain, by this identity, at the height of the
signature. -/
theorem verifyWitness_genuine {library : WitnessPrimitives} (lawful : library.Lawful)
    {attested : Json → WitnessStatement → Prop} (unforgeable : library.Unforgeable attested)
    {record : Json} (distinct : record.Distinct) {witness : WitnessBlock}
    {getIdentityKeys : String → Except String Json} {network : Network}
    {idSig : IdentitySignature}
    (parsed : library.fromBuffer network (Base64.decode witness.signature) (chainId network)
      witness.signedBy = .ok idSig)
    (noCollision : Set.InjOn library.sha256 (WitnessStatement.hashed library
      (insert ⟨network, witness.signedBy, idSig.blockHeight, record⟩
        { statement | ∃ address, attested address statement })))
    (verified : verifyWitness library record witness getIdentityKeys network = .ok ()) :
    ∃ keys, getIdentityKeys witness.signedBy = .ok keys ∧
      (∀ height, witness.signatureHeight = .number height → height = .ofInt idSig.blockHeight) ∧
      ∃ signers : List Json, signers ≠ [] ∧ signers.Nodup ∧ signers ⊆ primaryAddresses keys ∧
        (minSigs keys).toRat ≤ signers.length ∧
        ∀ address ∈ signers, ∃ statement, attested address statement ∧
          WitnessStatement.Same library statement
            ⟨network, witness.signedBy, idSig.blockHeight, record⟩ := by
  rcases verifyWitness_eq_ok.mp verified
    with ⟨_, idSig', parsed', _, _, height, keys, resolved, _, hash, bound, matched, walked, enough⟩
  rw [parsed] at parsed'
  cases parsed'
  have sound := matchedAddresses_sound walked List.nodup_nil
  have signed : ∀ address ∈ matched, address ∈ primaryAddresses keys ∧
      ∃ results, library.verifyHashOffline network idSig hash address = .ok results ∧
        true ∈ results := by
    intro address member
    apply (sound.2 address member).resolve_left
    exact List.not_mem_nil
  refine ⟨keys, resolved, fun _ => heightDiffers_eq_false height, matched, ?_, sound.1, ?_,
    enough, ?_⟩
  · rintro rfl
    exact absurd enough (not_le.mpr (minSigs_pos keys))
  · exact fun address member => (signed address member).1
  · intro address member
    rcases (signed address member).2 with ⟨results, answered, valid⟩
    rcases unforgeable _ _ _ _ _ answered valid with ⟨statement, vouched, sayable, made⟩
    refine ⟨statement, vouched, ?_⟩
    apply WitnessStatement.same_of_hash lawful noCollision _ _ sayable distinct made bound
    · exact Set.mem_insert_of_mem _ ⟨address, vouched⟩
    · exact Set.mem_insert _ _

/-! ## A recorded witness -/

def goldenRecord : Json := .object [
  ("amount", .number (Decimal.ofScientific 25 (-1))),
  ("buyerVerusId", .string "i9zVRJfR62cPyjL4HB9pUbRbqtba1kVCEL"),
  ("completedAt", .string "2026-06-23T12:00:00.000Z"),
  ("currency", .string "VRSCTEST"),
  ("jobHash", .string "a1b2c3d4e5f600112233445566778899"),
  ("schemaVersion", .number 1),
  ("sellerVerusId", .string "i7xKUpKQDSriYFfgHYfRpFc2uzRKWLDkjW"),
  ("serviceId", .null),
  ("status", .string "completed")]

def goldenWitness : WitnessBlock where
  signedBy := "i7xKUpKQDSriYFfgHYfRpFc2uzRKWLDkjW"
  signature := "AgWnDBEAAUEgQ+tTkV2rib0pFwzauBFheOZvy6J/gx8aUu883rxwyWZOUmAOMjUa+U16yql+m8TR" ++
    "zQmNbLorgDKZtj4lTHqFpw=="
  signatureHeight := .number 1117351
  algorithm := "verusid-signdata-sha256"

def goldenStatement : WitnessStatement :=
  ⟨.verustest, "i7xKUpKQDSriYFfgHYfRpFc2uzRKWLDkjW", 1117351, goldenRecord⟩

def goldenAddress : Json := .string "RAWwNeTLRg9urgnDPQtPyZ6NRycsmSY2J2"

def goldenKeys : Json :=
  .object [("primaryAddresses", .array [goldenAddress]), ("minimumSignatures", .number 1)]

def goldenJcs : Bytes := utf8 goldenRecord.sorted.stringify

def goldenDatahash : Bytes :=
  fromHex "3d49adad930600dfaee905f4bbe584049318c3301094c615c4a39a10c0bc4830"

def goldenText : Bytes :=
  fromHex "a6ef9ea235635e328124ff3429db9f9e91b64e2d" ++ lowBytes 4 1117351 ++
    fromHex "31222c229f754588c9af7e66e355264e94240a22" ++ prefixVarslice ++ goldenDatahash

def goldenHash : Bytes := fromHex "65992ed659d9101f08bb6cd25106ec98e55dee62cb5c5ebdee683f8e6763ffdc"

def goldenLibrary : WitnessPrimitives where
  sha256 buf :=
    if buf = goldenJcs then goldenDatahash else if buf = goldenText then goldenHash else []
  canonicalize record := record.sorted.stringify
  fromBase58Check address :=
    if address = chainId .verustest then .ok (fromHex "a6ef9ea235635e328124ff3429db9f9e91b64e2d")
    else if address = chainId .verus then .ok (fromHex "1af5b8015c64d39ab44c60ead8317f9f5a9b6c4c")
    else if address = goldenStatement.identity then
      .ok (fromHex "31222c229f754588c9af7e66e355264e94240a22")
    else .error "Invalid checksum"
  fromBuffer _ blob _ _ :=
    if blob = Base64.decode goldenWitness.signature then .ok ⟨2, 1117351, [blob.drop 8]⟩
    else .error "Invalid signature"
  verifyHashOffline _ _ hash address := .ok [decide (hash = goldenHash ∧ address = goldenAddress)]

theorem goldenLibrary_lawful : goldenLibrary.Lawful where
  length := by
    intro address hash decoded
    simp only [goldenLibrary] at decoded
    split_ifs at decoded
    · cases decoded
      decide
    · cases decoded
      decide
    · cases decoded
      decide
  chains := by decide
  canonical := fun _ _ => rfl

theorem goldenRecord_distinct : goldenRecord.Distinct := by
  simp [goldenRecord, Json.Distinct, Json.DistinctMembers]

theorem goldenText_ne : goldenText ≠ goldenJcs := by
  have brace : goldenJcs.head? = some 0x7b := by
    rw [goldenJcs, goldenRecord, Json.sorted_object, utf8, Json.stringify, String.toList_ofList]
    rfl
  intro same
  rw [← same] at brace
  revert brace
  decide +kernel

theorem goldenLibrary_datahash : goldenLibrary.sha256 goldenJcs = goldenDatahash := by
  simp only [goldenLibrary, if_true]

theorem goldenLibrary_hash : goldenLibrary.sha256 goldenText = goldenHash := by
  simp only [goldenLibrary, goldenText_ne, if_false, if_true]

theorem goldenStatement_text : goldenStatement.text goldenLibrary = .ok goldenText := by
  have digest : goldenStatement.digest goldenLibrary = goldenDatahash := goldenLibrary_datahash
  rw [WitnessStatement.text, digest]
  exact boundText_eq_ok.mpr ⟨_, _, rfl, rfl, by decide, rfl⟩

theorem goldenStatement_hash : goldenStatement.hash goldenLibrary = .ok goldenHash := by
  rw [WitnessStatement.hash, goldenStatement_text, ← goldenLibrary_hash]
  rfl

theorem goldenLibrary_unforgeable : goldenLibrary.Unforgeable fun address statement =>
    address = goldenAddress ∧ statement = goldenStatement := by
  intro network idSig hash address results answered valid
  cases answered
  have checked := List.mem_singleton.mp valid
  rcases of_decide_eq_true checked.symm with ⟨rfl, rfl⟩
  exact ⟨goldenStatement, ⟨rfl, rfl⟩, goldenRecord_distinct, goldenStatement_hash⟩

theorem goldenLibrary_injOn : Set.InjOn goldenLibrary.sha256
    (WitnessStatement.hashed goldenLibrary { statement | statement = goldenStatement }) := by
  have texts : ∀ text ∈ WitnessStatement.hashed goldenLibrary
      { statement | statement = goldenStatement }, text = goldenJcs ∨ text = goldenText := by
    rintro text ⟨statement, equal, jcs | bound⟩
    · rw [equal] at jcs
      exact .inl jcs
    · rw [equal, goldenStatement_text] at bound
      exact .inr (Except.ok.inj bound).symm
  have apart : goldenLibrary.sha256 goldenJcs ≠ goldenLibrary.sha256 goldenText := by
    rw [goldenLibrary_datahash, goldenLibrary_hash]
    decide +kernel
  intro first firstMember second secondMember same
  rcases texts first firstMember with left | left
  · rcases texts second secondMember with right | right
    · rw [left, right]
    · rw [left, right] at same
      exact absurd same apart
  · rcases texts second secondMember with right | right
    · rw [left, right] at same
      exact absurd same.symm apart
    · rw [left, right]

theorem verifyWitness_genuine_golden :
    verifyWitness goldenLibrary goldenRecord goldenWitness (fun _ => .ok goldenKeys) .verustest =
        .ok () ∧
      ∃ signers : List Json, signers ≠ [] ∧ ∀ address ∈ signers, address = goldenAddress := by
  have parsed : goldenLibrary.fromBuffer .verustest (Base64.decode goldenWitness.signature)
      (chainId .verustest) goldenWitness.signedBy =
        .ok ⟨2, 1117351, [(Base64.decode goldenWitness.signature).drop 8]⟩ := by
    simp only [goldenLibrary, if_true]
  have verified : verifyWitness goldenLibrary goldenRecord goldenWitness
      (fun _ => .ok goldenKeys) .verustest = .ok () :=
    verifyWitness_eq_ok.mpr ⟨rfl, _, parsed, rfl, by simp, by decide, _, rfl, by decide,
      _, goldenStatement_hash, [goldenAddress], by decide +kernel, by decide +kernel⟩
  have statements : insert goldenStatement
      { statement | ∃ address : Json, address = goldenAddress ∧ statement = goldenStatement } =
        { statement | statement = goldenStatement } := by
    ext statement
    simp
  have noCollision := goldenLibrary_injOn
  rw [← statements] at noCollision
  rcases verifyWitness_genuine goldenLibrary_lawful goldenLibrary_unforgeable
      goldenRecord_distinct parsed noCollision verified
    with ⟨_, _, _, signers, some, _, _, _, signed⟩
  refine ⟨verified, signers, some, ?_⟩
  intro address member
  rcases signed address member with ⟨_, vouched, _⟩
  exact vouched.1

end SovAgent.Identity
