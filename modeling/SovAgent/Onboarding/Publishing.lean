import SovAgent.Identity.UpdateContents
import SovAgent.Onboarding.DecodeSteps
import SovAgent.Foundation.Coercion

/-! # Publishing fields

New values are either appended to those that stand under a key or replace them. The decoder
reads the last value of a key, so it cannot tell the two apart, after any number of writes.
-/

namespace SovAgent.Onboarding

open Identity

/-! ## The two ways to write -/

/-- Values of a key, after those that it has. -/
def mergeKey (merged : Record String (List Json)) (entry : String × List Json) :
    Record String (List Json) :=
  merged.set entry.1 ((merged.get? entry.1).getD [] ++ entry.2)

def mergeContentMultimap (existing : Record String Json)
    (additions : Record String (List Json)) : Record String (List Json) :=
  additions.entries.foldl mergeKey (existing.mapValues Json.asArray)

/-- How additions are written: merged by the SDK, or put into an identity update. -/
inductive WriteMode where
  | merged
  | rewritten

structure Publication where
  mode : WriteMode
  additions : Record String (List Json)
  filled : ∀ {key values}, additions.get? key = some values → values ≠ []

def publish (hash160Hex : String → Option String) (onChain : ContentMultimap)
    (publication : Publication) : Except Thrown ContentMultimap :=
  match publication.mode with
  | .merged => .ok ((mergeContentMultimap onChain publication.additions).mapValues Json.array)
  | .rewritten =>
      (updatedContentmultimap hash160Hex false (some onChain) publication.additions).map
        fun updated => updated.mapValues Json.array

def publishAll (hash160Hex : String → Option String) :
    ContentMultimap → List Publication → Except Thrown ContentMultimap
  | onChain, [] => .ok onChain
  | onChain, publication :: rest => do
      let next ← publish hash160Hex onChain publication
      publishAll hash160Hex next rest

/-! ## What a key reads as -/

/-- Values that read the same: the same value, or arrays with one last element. -/
inductive ReadAlike : Option Json → Option Json → Prop
  | same (value : Option Json) : ReadAlike value value
  | arrays {left right : List Json} : left.getLast? = right.getLast? →
      ReadAlike (some (.array left)) (some (.array right))

/-- Maps that read the same under every key but the one of removals. -/
def MapsAlike (left right : ContentMultimap) : Prop :=
  ∀ key, key ≠ multimapRemoveKey → ReadAlike (left.get? key) (right.get? key)

theorem ReadAlike.lastEntry {left right : Option Json} (alike : ReadAlike left right) :
    lastEntry left = lastEntry right := by
  cases alike with
  | same => rfl
  | arrays last => exact congrArg Except.ok last

theorem ReadAlike.isTruthy {left right : Option Json} (alike : ReadAlike left right) :
    isTruthy left = isTruthy right := by
  cases alike with
  | same => rfl
  | arrays => rfl

theorem flatEntry_alike {left right : ContentMultimap} (alike : MapsAlike left right)
    {key : String} (read : key ≠ multimapRemoveKey) : flatEntry left key = flatEntry right key := by
  rw [flatEntry, flatEntry, parseFlatEntry, parseFlatEntry, (alike key read).lastEntry]

theorem decodeFlat_alike {left right : ContentMultimap} (alike : MapsAlike left right) :
    decodeFlatContentMultimap left = decodeFlatContentMultimap right := by
  have read : ∀ key ∈ flatKeys, flatEntry left key = flatEntry right key := by
    intro key member
    apply flatEntry_alike alike
    rintro rfl
    exact absurd member (by decide)
  simp only [flatKeys, List.forall_mem_cons] at read
  simp only [decodeFlatContentMultimap, read]

theorem legacyFields_alike {left right : ContentMultimap} (alike : MapsAlike left right)
    {parent : String} (read : parent ≠ multimapRemoveKey) (names : ReverseLookup) :
    legacyFields left parent names = legacyFields right parent names := by
  rw [legacyFields, legacyFields, (alike parent read).lastEntry]

theorem decodeLegacy_alike {left right : ContentMultimap} (alike : MapsAlike left right) :
    decodeLegacyContentMultimap left = decodeLegacyContentMultimap right := by
  have agent := legacyFields_alike alike (by decide : ParentKeys.agent ≠ multimapRemoveKey)
  have session := legacyFields_alike alike (by decide : ParentKeys.session ≠ multimapRemoveKey)
  have platform := legacyFields_alike alike (by decide : ParentKeys.platform ≠ multimapRemoveKey)
  have workspace :=
    legacyFields_alike alike (by decide : ParentKeys.workspace ≠ multimapRemoveKey)
  simp only [decodeLegacyContentMultimap, decodeLegacyDocument, agent, session, platform,
    workspace]

theorem isLegacyFormat_alike {left right : ContentMultimap} (alike : MapsAlike left right) :
    isLegacyFormat left = isLegacyFormat right := by
  have agent := (alike ParentKeys.agent (by decide)).isTruthy
  have flat : ∀ key ∈ agentKeys, isTruthy (left.get? key) = isTruthy (right.get? key) := by
    intro key member
    apply (alike key _).isTruthy
    rintro rfl
    exact absurd member (by decide)
  rw [Bool.eq_iff_iff, isLegacyFormat_iff, isLegacyFormat_iff, agent]
  apply and_congr_right
  intro _
  exact forall₂_congr fun key member => by rw [flat key member]

theorem decode_alike {left right : ContentMultimap} (alike : MapsAlike left right) :
    decodeContentMultimap left = decodeContentMultimap right := by
  rw [decodeContentMultimap, decodeContentMultimap, isLegacyFormat_alike alike,
    decodeLegacy_alike alike, decodeFlat_alike alike]

/-! ## What one publication writes -/

theorem merge_entries_get? {entries : List (String × List Json)}
    (distinct : (entries.map Prod.fst).Nodup) (start : Record String (List Json)) (key : String) :
    (entries.foldl mergeKey start).get? key =
      match entries.lookup key with
      | some values => some ((start.get? key).getD [] ++ values)
      | none => start.get? key := by
  induction entries generalizing start with
  | nil => rfl
  | cons head tail induction =>
      rcases head with ⟨name, values⟩
      rcases List.nodup_cons.mp distinct with ⟨fresh, rest⟩
      rw [List.foldl_cons, induction rest, Record.lookup_cons, mergeKey, Record.get?_set]
      by_cases here : key = name
      · subst here
        have absent : tail.lookup key = none := by
          rw [← Option.not_isSome_iff_eq_none]
          simpa using fresh
        rw [absent, if_pos rfl, if_pos rfl]
      · rw [if_neg here, if_neg here]

theorem mergeContentMultimap_get? (existing : Record String Json)
    (additions : Record String (List Json)) (key : String) :
    (mergeContentMultimap existing additions).get? key =
      match additions.get? key with
      | some values => some (((existing.get? key).map Json.asArray).getD [] ++ values)
      | none => (existing.get? key).map Json.asArray := by
  have merged := merge_entries_get? additions.distinct (existing.mapValues Json.asArray) key
  rw [Record.get?_mapValues] at merged
  exact merged

structure Writes (onChain next : ContentMultimap) (additions : Record String (List Json)) :
    Prop where
  written : ∀ {key values}, key ≠ multimapRemoveKey → additions.get? key = some values →
    ∃ earlier, next.get? key = some (.array (earlier ++ values))
  carried : ∀ {key}, key ≠ multimapRemoveKey → additions.get? key = none →
    next.get? key = (onChain.get? key).map fun value => .array value.asArray

theorem publish_writes {hash160Hex : String → Option String} {onChain next : ContentMultimap}
    {publication : Publication} (published : publish hash160Hex onChain publication = .ok next) :
    Writes onChain next publication.additions := by
  rw [publish] at published
  cases mode : publication.mode with
  | merged =>
      rw [mode] at published
      cases published
      constructor
      · intro key values _ added
        rw [Record.get?_mapValues, mergeContentMultimap_get?, added]
        exact ⟨_, rfl⟩
      · intro key _ absent
        rw [Record.get?_mapValues, mergeContentMultimap_get?, absent]
        dsimp only
        rw [Option.map_map]
        rfl
  | rewritten =>
      rw [mode] at published
      rcases map_eq_ok.mp published with ⟨updated, updates, rfl⟩
      constructor
      · intro key values _ added
        rw [Record.get?_mapValues, updatedContentmultimap_get? updates, added]
        exact ⟨[], rfl⟩
      · intro key apart absent
        rw [Record.get?_mapValues, updatedContentmultimap_get? updates, absent,
          carriedContentmultimap_get?, if_neg apart]
        simp [Function.comp_def]

theorem ReadAlike.asArrays {left right : Option Json} (alike : ReadAlike left right) :
    ReadAlike (left.map fun value => .array value.asArray)
      (right.map fun value => .array value.asArray) := by
  cases alike with
  | same => exact .same _
  | arrays last => exact .arrays last

theorem Writes.alike {left right left' right' : ContentMultimap}
    {additions : Record String (List Json)}
    (filled : ∀ {key values}, additions.get? key = some values → values ≠ [])
    (alike : MapsAlike left right) (first : Writes left left' additions)
    (second : Writes right right' additions) : MapsAlike left' right' := by
  intro key apart
  cases added : additions.get? key with
  | none =>
      rw [first.carried apart added, second.carried apart added]
      exact (alike key apart).asArrays
  | some values =>
      rcases first.written apart added with ⟨earlier, written⟩
      rcases second.written apart added with ⟨earlier', written'⟩
      rw [written, written']
      apply ReadAlike.arrays
      rw [List.getLast?_append_of_ne_nil _ (filled added),
        List.getLast?_append_of_ne_nil _ (filled added)]

/-! ## What publications read as -/

def latestValues (publications : List Publication) (key : String) : Option (List Json) :=
  match publications with
  | [] => none
  | publication :: rest => (latestValues rest key).or (publication.additions.get? key)

theorem publishAll_alike {hash160Hex : String → Option String}
    {left right left' right' : ContentMultimap} {first second : List Publication}
    (alike : MapsAlike left right)
    (same : first.map Publication.additions = second.map Publication.additions)
    (ran : publishAll hash160Hex left first = .ok left')
    (ran' : publishAll hash160Hex right second = .ok right') : MapsAlike left' right' := by
  induction first generalizing left right second with
  | nil =>
      have none : second = [] := List.map_eq_nil_iff.mp same.symm
      subst none
      cases ran
      cases ran'
      exact alike
  | cons publication rest induction =>
      cases second with
      | nil => cases same
      | cons publication' rest' =>
          rw [List.map_cons, List.map_cons, List.cons.injEq] at same
          rcases bind_eq_ok.mp ran with ⟨next, published, ran⟩
          rcases bind_eq_ok.mp ran' with ⟨next', published', ran'⟩
          have writes := publish_writes published'
          rw [← same.1] at writes
          exact induction ((publish_writes published).alike publication.filled alike writes)
            same.2 ran ran'

/-- What is carried over a write still ends with its last value. -/
theorem publishAll_latest {hash160Hex : String → Option String}
    {onChain final : ContentMultimap} {publications : List Publication} {key : String}
    (apart : key ≠ multimapRemoveKey) {values : List Json}
    (ran : publishAll hash160Hex onChain publications = .ok final)
    (latest : (latestValues publications key = none ∧
        ∃ earlier, onChain.get? key = some (.array (earlier ++ values))) ∨
      latestValues publications key = some values) :
    ∃ earlier, final.get? key = some (.array (earlier ++ values)) := by
  induction publications generalizing onChain with
  | nil =>
      cases ran
      rcases latest with before | after
      · exact before.2
      · cases after
  | cons publication rest induction =>
      rcases bind_eq_ok.mp ran with ⟨next, published, ran⟩
      have writes := publish_writes published
      apply induction ran
      simp only [latestValues, Option.or_eq_none_iff] at latest
      cases later : latestValues rest key with
      | some newer =>
          rw [later] at latest
          rcases latest with before | after
          · cases before.1.1
          · exact .inr after
      | none =>
          rw [later] at latest
          refine .inl ⟨rfl, ?_⟩
          rcases latest with before | after
          · rcases before.2 with ⟨earlier, found⟩
            rw [writes.carried apart before.1.2, found]
            exact ⟨earlier, rfl⟩
          · exact writes.written apart after

/-- Publications decode the same whichever of them were merged and whichever were rewritten,
and every key reads as the last value of its latest publication. -/
theorem decode_publications {hash160Hex : String → Option String}
    {onChain final final' : ContentMultimap} {first second : List Publication}
    (same : first.map Publication.additions = second.map Publication.additions)
    (ran : publishAll hash160Hex onChain first = .ok final)
    (ran' : publishAll hash160Hex onChain second = .ok final') :
    decodeContentMultimap final = decodeContentMultimap final' ∧
      ∀ key values, key ≠ multimapRemoveKey → latestValues first key = some values →
        values ≠ [] → lastEntry (final.get? key) = .ok values.getLast? := by
  constructor
  · apply decode_alike
    exact publishAll_alike (fun key _ => .same _) same ran ran'
  · intro key values apart latest some
    rcases publishAll_latest apart ran (.inr latest) with ⟨earlier, found⟩
    rw [found, lastEntry, List.getLast?_append_of_ne_nil _ some]

private def namedMap (name : String) : Record String (List Json) :=
  .mk [(VdxfKeys.agentDisplayName, [makeSubDD VdxfKeys.agentDisplayName name])]
    (List.nodup_singleton _)

private def rename (mode : WriteMode) : Publication where
  mode
  additions := namedMap "New"
  filled := by
    intro key values added
    have found : (key, values) ∈ (namedMap "New").entries := Record.get?_eq_some_iff.mp added
    cases List.mem_singleton.mp found
    exact List.cons_ne_nil _ _

theorem decode_publications_renamed :
    ∃ final final',
      publishAll (fun _ => none) ((namedMap "Old").mapValues Json.array) [rename .merged] =
        .ok final ∧
      publishAll (fun _ => none) ((namedMap "Old").mapValues Json.array) [rename .rewritten] =
        .ok final' ∧
      decodeContentMultimap final = decodeContentMultimap final' ∧
      lastEntry (final.get? VdxfKeys.agentDisplayName) =
        .ok (some (makeSubDD VdxfKeys.agentDisplayName "New")) := by
  have ran : publishAll (fun _ => none) ((namedMap "Old").mapValues Json.array)
      [rename .merged] = .ok _ := rfl
  have sized : assertContentmultimapValueSizes (namedMap "New") = .ok () := by decide +kernel
  have ran' : publishAll (fun _ => none) ((namedMap "Old").mapValues Json.array)
      [rename .rewritten] = .ok ((namedMap "New").mapValues Json.array) := by
    simp only [publishAll, publish, rename, updatedContentmultimap, sized]
    rfl
  have same : [rename .merged].map Publication.additions =
      [rename .rewritten].map Publication.additions := rfl
  have reads := decode_publications same ran ran'
  exact ⟨_, _, ran, ran', reads.1, reads.2 VdxfKeys.agentDisplayName
    [makeSubDD VdxfKeys.agentDisplayName "New"] (by decide) rfl (List.cons_ne_nil _ _)⟩

end SovAgent.Onboarding
