import SovAgent.Client.Request
import SovAgent.Foundation.Base64
import SovAgent.Foundation.Coercion
import SovAgent.Foundation.DoubleOrder
import SovAgent.Foundation.Utf8Stream

/-! # Reading a response

One attempt of a request reads the body as it arrives, up to a limit, and turns
what it says into a result or an error. What it returns does not depend on how
the network cuts the body.
-/

namespace SovAgent.Client

/-! ## The response -/

structure BodyStream where
  chunks : List Bytes
  fails : Bool := false

structure Response where
  status : Nat
  /-- `Number(headers.get('content-length'))`. -/
  declared : Number := 0
  body : Option BodyStream

def Response.ok (response : Response) : Bool := 200 ≤ response.status ∧ response.status < 300

structure Call where
  method : String
  path : String
  timeout : Nat
  /-- `Number(process.env.J41_MAX_RESPONSE_BYTES ?? 8 * 1024 * 1024)` -/
  maxResponseBytes : Number := .finite (.ofInt 8388608)

def Call.timedOut (call : Call) : RequestError :=
  .j41 s!"Request to {call.method} {call.path} timed out after {call.timeout}ms"
    (.string "TIMEOUT") 408 none

def Call.declaredTooLarge (call : Call) (declared : Number) (status : Nat) : RequestError :=
  .j41 s!"Response Content-Length {declared} exceeds cap {call.maxResponseBytes} for {
    call.method} {call.path}" (.string "RESPONSE_TOO_LARGE") status none

def Call.bodyTooLarge (call : Call) (status : Nat) : RequestError :=
  .j41 s!"Response body exceeded cap {call.maxResponseBytes} for {call.method} {call.path}"
    (.string "RESPONSE_TOO_LARGE") status none

def Call.parseError (call : Call) (status : Nat) : RequestError :=
  .j41 s!"Non-JSON response from {call.method} {call.path} (HTTP {status})"
    (.string "PARSE_ERROR") status none

/-! ## The body -/

/-- `text ? JSON.parse(text) : {}` -/
def parseBody (text : List Char) : Option Json :=
  if text = [] then some (.object []) else Json.parse (String.ofList text)

/-- The loop over the chunks. -/
def readLoop (call : Call) (status : Nat) (fails : Bool) :
    (decoder : TextDecoder) → (received : Nat) → (text : List Char) → List Bytes →
      Except RequestError Json
  | decoder, _, text, [] =>
      if fails then .error (call.parseError status)
      else
        match parseBody (text ++ decoder.finish) with
        | some data => .ok data
        | none => .error (call.parseError status)
  | decoder, received, text, value :: rest =>
      if exceeds (received + value.length : Nat) call.maxResponseBytes then
        .error (call.bodyTooLarge status)
      else
        let decoded := decoder.decode (value.map UInt8.toNat)
        readLoop call status fails decoded.2 (received + value.length) (text ++ decoded.1) rest

def readBody (call : Call) (response : Response) : Except RequestError Json :=
  match response.body with
  | none => .ok (.object [])
  | some body => readLoop call response.status body.fails {} 0 [] body.chunks

/-- `declared` is finite and over the limit. -/
def declaresTooMuch (call : Call) (response : Response) : Bool :=
  match response.declared with
  | .finite declared => exceeds declared.toRat call.maxResponseBytes
  | _ => false

/-! ## The answer -/

/-- The message of an error, which its constructor turns into a text. -/
def messageText (status : Nat) (message : Option Json) : Except RequestError String :=
  match message.filter Json.truthy with
  | none => .ok s!"HTTP {status}"
  | some message =>
      match message.toText with
      | .ok text => .ok text
      | .error _ => .error (.native "TypeError" "Cannot convert object to primitive value")

/-- The error that a response with a status outside of 200 to 299 means. -/
def responseError (status : Nat) (data : Json) : RequestError :=
  let error := (data.get? "error").filter (· ≠ .null)
  match messageText status (error.bind fun error => error.get? "message") with
  | .error thrown => thrown
  | .ok message =>
      .j41 message
        (((error.bind fun error => error.get? "code").filter Json.truthy).getD
          (.string "HTTP_ERROR"))
        status
        (match error.bind fun error => error.get? "detail" with
        | some (.string detail) => some detail
        | _ => none)

structure Answer where
  result : Except RequestError Json
  sessionToken : Option String

def doRequest (call : Call) (sessionToken : Option String)
    (fetched : Except RequestError Response) : Answer :=
  match fetched with
  | .error (.native "AbortError" _) => ⟨.error call.timedOut, sessionToken⟩
  | .error fetchErr => ⟨.error fetchErr, sessionToken⟩
  | .ok response =>
      if declaresTooMuch call response then
        ⟨.error (call.declaredTooLarge response.declared response.status), sessionToken⟩
      else
        match readBody call response with
        | .error parseErr => ⟨.error parseErr, sessionToken⟩
        | .ok data =>
            if response.ok then ⟨.ok data, sessionToken⟩
            else
              ⟨.error (responseError response.status data),
                if response.status = 401 ∨ response.status = 403 then none else sessionToken⟩

/-! ## The body in one piece -/

def readWhole (call : Call) (status : Nat) (fails : Bool) (bytes : Bytes) :
    Except RequestError Json :=
  if exceeds bytes.length call.maxResponseBytes then .error (call.bodyTooLarge status)
  else if fails then .error (call.parseError status)
  else
    match parseBody (decodeText (bytes.map UInt8.toNat)) with
    | some data => .ok data
    | none => .error (call.parseError status)

theorem readLoop_eq (call : Call) (status : Nat) (fails : Bool) (decoder : TextDecoder)
    {received : Nat} (text : List Char) (chunks : List Bytes)
    (below : exceeds received call.maxResponseBytes = false) :
    readLoop call status fails decoder received text chunks =
      if exceeds (received + chunks.flatten.length : Nat) call.maxResponseBytes then
        .error (call.bodyTooLarge status)
      else if fails then .error (call.parseError status)
      else
        match parseBody (text ++ decoder.decodeAll (chunks.map (List.map UInt8.toNat))) with
        | some data => .ok data
        | none => .error (call.parseError status) := by
  induction chunks generalizing decoder received text with
  | nil =>
      rw [List.flatten_nil, List.length_nil, Nat.add_zero, below, if_neg Bool.false_ne_true]
      rfl
  | cons value chunks induction =>
      rw [readLoop, List.flatten_cons, List.length_append, ← Nat.add_assoc]
      cases above : exceeds (received + value.length : Nat) call.maxResponseBytes with
      | true =>
          have whole : exceeds (received + value.length + chunks.flatten.length : Nat)
              call.maxResponseBytes = true :=
            exceeds_mono (by exact_mod_cast Nat.le_add_right _ _) above
          rw [whole, if_pos rfl, if_pos rfl]
      | false =>
          rw [if_neg Bool.false_ne_true, induction _ _ above, List.map_cons, TextDecoder.decodeAll,
            List.append_assoc]

theorem readBody_eq_readWhole {call : Call} (empty : exceeds 0 call.maxResponseBytes = false)
    {response : Response} {body : BodyStream} (streamed : response.body = some body) :
    readBody call response =
      readWhole call response.status body.fails body.chunks.flatten := by
  have below : exceeds (0 : Nat) call.maxResponseBytes = false := by exact_mod_cast empty
  rw [readBody, streamed]
  dsimp only
  rw [readLoop_eq _ _ _ _ _ _ below, Nat.zero_add, List.nil_append, decodeAll_eq_decodeText,
    ← List.map_flatten]
  rfl

/-! ## The answer to a body in pieces -/

theorem doRequest_readBody (call : Call) (sessionToken : Option String) {response other : Response}
    (status : response.status = other.status) (declared : response.declared = other.declared)
    (bodies : readBody call response = readBody call other) :
    doRequest call sessionToken (.ok response) = doRequest call sessionToken (.ok other) := by
  have ok : response.ok = other.ok := by rw [Response.ok, Response.ok, status]
  have tooMuch : declaresTooMuch call response = declaresTooMuch call other := by
    rw [declaresTooMuch, declaresTooMuch, declared]
  simp only [doRequest, ok, tooMuch, bodies, status, declared]

theorem doRequest_sessionToken (call : Call) (sessionToken : Option String)
    (response : Response) :
    (doRequest call sessionToken (.ok response)).sessionToken =
      if (response.status = 401 ∨ response.status = 403) ∧
          declaresTooMuch call response = false ∧ (readBody call response).isOk = true then none
      else sessionToken := by
  rw [doRequest]
  cases tooMuch : declaresTooMuch call response with
  | true =>
      rw [if_pos rfl, if_neg]
      intro lost
      cases lost.2.1
  | false =>
      rw [if_neg Bool.false_ne_true]
      cases read : readBody call response with
      | error parseErr =>
          dsimp only
          rw [if_neg]
          intro lost
          cases lost.2.2
      | ok data =>
          dsimp only
          cases ok : response.ok with
          | true =>
              have inside := of_decide_eq_true ok
              rw [if_pos rfl, if_neg]
              intro lost
              omega
          | false =>
              rw [if_neg Bool.false_ne_true]
              simp only [Except.isOk, Except.toBool, and_true]

/-- A response is answered by the bytes it brings, not by how they arrive: a stream gets the
answer of one that brings all of them at once, and the session token is lost on a 401 or
403 whose whole body can be read, and on nothing else. -/
theorem doRequest_arrival (call : Call) (sessionToken : Option String) (response : Response)
    (body other : BodyStream) (empty : exceeds 0 call.maxResponseBytes = false)
    (bytes : body.chunks.flatten = other.chunks.flatten) (ending : body.fails = other.fails) :
    doRequest call sessionToken (.ok { response with body := some body }) =
        doRequest call sessionToken (.ok { response with body := some other }) ∧
      (doRequest call sessionToken (.ok { response with body := some body })).sessionToken =
        if (response.status = 401 ∨ response.status = 403) ∧
            declaresTooMuch call response = false ∧
            (readWhole call response.status body.fails body.chunks.flatten).isOk = true then none
        else sessionToken := by
  have whole (stream : BodyStream) : readBody call { response with body := some stream } =
      readWhole call response.status stream.fails stream.chunks.flatten :=
    readBody_eq_readWhole empty rfl
  constructor
  · apply doRequest_readBody
    · rfl
    · rfl
    · rw [whole, whole, bytes, ending]
  · rw [doRequest_sessionToken, whole]
    rfl

def profileCall : Call where
  method := "GET"
  path := "/v1/me"
  timeout := 30000

def accentCut : BodyStream where
  chunks := [[34, 195], [], [169, 34]]

def accentWhole : BodyStream where
  chunks := [[34, 195, 169, 34]]

theorem doRequest_arrival_cut :
    let answer := fun body => doRequest profileCall (some "session")
      (.ok { status := 403, body := some body })
    answer accentCut = answer accentWhole ∧ (answer accentCut).sessionToken = none := by
  have arrival := doRequest_arrival profileCall (some "session") ⟨403, 0, none⟩ accentCut
    accentWhole (by decide +kernel) rfl rfl
  exact ⟨arrival.1, arrival.2.trans (by decide +kernel)⟩

end SovAgent.Client
