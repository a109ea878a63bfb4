import SovAgent.Foundation.JsonRoundTrip
import SovAgent.Onboarding.Vdxf
import Mathlib.Algebra.Order.Ring.Rat

/-! # Identity history

Every record type is written under one key whose value each update replaces, so
the records of an identity are read from the snapshots of all its updates.
-/

namespace SovAgent.Identity.History

open Onboarding

/-- A snapshot as the platform returns it: a value whose objects have no key twice. -/
structure Snapshot where
  value : Json
  distinct : value.Distinct

structure VdxfHistoryEntry where
  height : Option Decimal
  value : Json

def numberProperty (value : Json) (key : String) : Option Decimal :=
  match value.get? key with
  | some (.number number) => some number
  | _ => none

def stringProperty (value : Json) (key : String) : Option String :=
  match value.get? key with
  | some (.string text) => some text
  | _ => none

namespace Snapshot

def height (snapshot : Snapshot) : Option Decimal :=
  (numberProperty snapshot.value "height").or (numberProperty snapshot.value "blockheight")

def values (snapshot : Snapshot) (key : String) : Option (List Json) :=
  let cmm := ((snapshot.value.get? "identity").filter Json.truthy).bind
    (Json.get? "contentmultimap")
  let raw := (cmm.filter Json.truthy).bind (Json.get? key)
  (raw.filter (· ≠ .null)).map Json.asArray

/-- The comparison of the sort: snapshots without a height come last. -/
def before (left right : Snapshot) : Bool :=
  match left.height, right.height with
  | none, none => true
  | none, some _ => false
  | some _, none => true
  | some left, some right => left.toRat ≤ right.toRat

end Snapshot

/-- The loop over the ordered snapshots, with the text of the values last taken. -/
def collect (key : String) : (lastSerialized : Option String) → List Snapshot →
    List VdxfHistoryEntry
  | _, [] => []
  | lastSerialized, snapshot :: rest =>
      match snapshot.values key with
      | none => collect key lastSerialized rest
      | some values =>
          let serialized := (Json.array values).stringify
          if lastSerialized = some serialized then collect key lastSerialized rest
          else
            (values.map fun value => { height := snapshot.height, value }) ++
              collect key (some serialized) rest

def extractVdxfHistory (snapshots : List Snapshot) (key : String) : List VdxfHistoryEntry :=
  collect key none (snapshots.mergeSort Snapshot.before)

structure HistoricalReview where
  height : Option Decimal
  jobHash : Option String
  buyer : Option String
  rating : Option Decimal
  timestamp : Option Decimal
  signature : Option String
  raw : Json

def unwrapDataDescriptor (value : Json) : Json :=
  match (value.get? dataDescriptorKey).filter Json.truthy with
  | none => value
  | some descriptor =>
      match descriptor.get? "objectdata" with
      | some (.string text) => .string text
      | some objectdata =>
          match objectdata.get? "message" with
          | some (.string message) => .string message
          | _ => value
      | none => value

/-- A review value, when it is a record: hexadecimal text of one, text of one, or
the record itself. -/
def decodeReviewValue (value : Json) : Option Json :=
  match unwrapDataDescriptor value with
  | .string text =>
      let json := if isHexText text then decodeHex text else text
      (Json.parse json).filter Json.isObject
  | unwrapped => if unwrapped.isObject then some unwrapped else none

def historicalReview (height : Option Decimal) (record : Json) : HistoricalReview where
  height := height
  jobHash := stringProperty record "jobHash"
  buyer := stringProperty record "buyer"
  rating := numberProperty record "rating"
  timestamp := numberProperty record "timestamp"
  signature := stringProperty record "signature"
  raw := record

/-- The loop over the entries, with the job hashes seen so far. -/
def decodeEntries : (seen : List String) → List VdxfHistoryEntry → List HistoricalReview
  | _, [] => []
  | seen, entry :: rest =>
      match decodeReviewValue entry.value with
      | none => decodeEntries seen rest
      | some record =>
          let review := historicalReview entry.height record
          match review.jobHash.filter (· ≠ "") with
          | none => review :: decodeEntries seen rest
          | some jobHash =>
              if jobHash ∈ seen then decodeEntries seen rest
              else review :: decodeEntries (seen ++ [jobHash]) rest

def decodeReviewHistory (snapshots : List Snapshot) : List HistoricalReview :=
  decodeEntries [] (extractVdxfHistory snapshots VdxfKeys.reviewRecord)

end SovAgent.Identity.History
