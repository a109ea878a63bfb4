import SovAgent.Client.Response
import SovAgent.Foundation.Checks
import SovAgent.Foundation.PathText

/-! # Downloads

The name of a file that is downloaded comes from a header of the response. Whatever it says,
the file is written into the output directory itself.
-/

namespace SovAgent.Agent

open Client

structure FileResponse where
  status : Nat
  contentDisposition : Option String
  contentType : Option String
  checksum : Option String
  errData : Option Json
  arrayBuffer : Except RequestError Bytes

structure DownloadedFile where
  data : Bytes
  filename : String
  mimeType : String
  checksum : String

/-- `disposition.match(/filename="([^"]+)"/)?.[1]` -/
def filenameMatch : List Char → Option (List Char)
  | [] => none
  | character :: rest =>
      let value := (character :: rest).drop 10
      let name := value.takeWhile (· ≠ '"')
      if "filename=\"".toList <+: character :: rest ∧ name ≠ [] ∧ '"' ∈ value then some name
      else filenameMatch rest

example : filenameMatch "attachment; filename=\"may.txt\"; size=3".toList =
    some "may.txt".toList := by decide

/-- `text || fallback` -/
def orElse (text : Option String) (fallback : String) : String :=
  (text.filter (· ≠ "")).getD fallback

def downloadError (status : Nat) (errData : Option Json) : RequestError :=
  let error := ((errData.getD (.object [])).get? "error").filter (· ≠ .null)
  match messageText status (error.bind fun error => error.get? "message") with
  | .error thrown => thrown
  | .ok message =>
      .j41 message
        (((error.bind fun error => error.get? "code").filter Json.truthy).getD
          (.string "HTTP_ERROR"))
        status none

structure Download where
  result : Except RequestError DownloadedFile
  sessionToken : Option String

def downloadFile (sessionToken : Option String) (fetched : Except RequestError FileResponse) :
    Download :=
  match fetched with
  | .error error => ⟨.error error, sessionToken⟩
  | .ok response =>
      if ¬(200 ≤ response.status ∧ response.status < 300) then
        ⟨.error (downloadError response.status response.errData),
          if response.status = 401 ∨ response.status = 403 then none else sessionToken⟩
      else
        ⟨do
          let data ← response.arrayBuffer
          .ok {
            data
            filename := orElse
              ((filenameMatch (response.contentDisposition.getD "").toList).map String.ofList)
              "download"
            mimeType := orElse response.contentType "application/octet-stream"
            checksum := orElse response.checksum "" },
          sessionToken⟩

structure Saving where
  written : List (String × Bytes)
  result : Except RequestError String

/-- `path.basename(String(result.filename || 'download')).replace(/\0/g, '')` -/
def downloadName (filename : String) : String :=
  String.ofList
    ((basename (orElse (some filename) "download")).toList.filter (·.toNat ≠ 0))

def invalidFilename : RequestError := .native "Error" "Invalid download filename"

/-- `downloadFileTo` of the agent, in a process whose directory is `cwd`. -/
def downloadFileTo (cwd : AbsolutePath) (outputDir : Option String)
    (writeFile : String → Except RequestError Unit) (download : Download) : Saving :=
  match download.result with
  | .error error => ⟨[], .error error⟩
  | .ok result =>
      let dir := orElse outputDir cwd.text
      let name := downloadName result.filename
      if name = "" ∨ name = "." ∨ name = ".." then ⟨[], .error invalidFilename⟩
      else
        let filePath := joinPath dir name
        ⟨[(filePath, result.data)], (writeFile filePath).map fun _ => filePath⟩

/-! ## Names -/

theorem downloadName_proper_iff (filename : String) :
    Segment.Proper (downloadName filename).toList ↔
      ¬(downloadName filename = "" ∨ downloadName filename = "." ∨
        downloadName filename = "..") := by
  have noSlash : '/' ∉ (downloadName filename).toList := by
    rw [downloadName, String.toList_ofList]
    exact fun member => basename_noSlash _ (List.mem_of_mem_filter member)
  constructor
  · intro proper
    rintro (empty | here | up)
    · exact proper.nonempty (congrArg String.toList empty)
    · exact proper.notHere (congrArg String.toList here)
    · exact proper.notUp (congrArg String.toList up)
  · intro named
    rw [not_or, not_or] at named
    exact ⟨fun empty => named.1 (String.toList_inj.mp empty),
      fun here => named.2.1 (String.toList_inj.mp here),
      fun up => named.2.2 (String.toList_inj.mp up), noSlash⟩

theorem basename_of_noSlash {name : String} (noSlash : '/' ∉ name.toList) :
    basename name = name := by
  have others : ∀ character ∈ name.toList.reverse, character ≠ '/' :=
    fun character member same => noSlash (same ▸ List.mem_reverse.mp member)
  have dropped : name.toList.reverse.dropWhile (· = '/') = name.toList.reverse := by
    cases characters : name.toList.reverse with
    | nil => rfl
    | cons character rest =>
        rw [characters] at others
        rw [List.dropWhile_cons_of_neg]
        simpa using others character List.mem_cons_self
  have taken : name.toList.reverse.takeWhile (· ≠ '/') = name.toList.reverse :=
    List.takeWhile_eq_self_iff.mpr fun character member => decide_eq_true (others character member)
  rw [basename, dropped, taken, List.reverse_reverse, String.ofList_toList]

structure IsFileName (name : Segment) : Prop where
  proper : name.Proper
  clean : ∀ character ∈ name, character.toNat ≠ 0

theorem downloadName_clean (filename : String) :
    ∀ character ∈ (downloadName filename).toList, character.toNat ≠ 0 := by
  rw [downloadName, String.toList_ofList]
  exact fun character member => of_decide_eq_true (List.mem_filter.mp member).2

/-- A name that a file can have is kept. -/
theorem downloadName_eq {filename : String} (fileName : IsFileName filename.toList) :
    downloadName filename = filename := by
  have named : filename ≠ "" := fun empty => fileName.proper.nonempty (empty ▸ rfl)
  have given : orElse (some filename) "download" = filename := by
    rw [orElse, Option.filter_some, if_pos (decide_eq_true named), Option.getD_some]
  rw [downloadName, given, basename_of_noSlash fileName.proper.noSlash, List.filter_eq_self.mpr,
    String.ofList_toList]
  exact fun character member => decide_eq_true (fileName.clean character member)

/-! ## Where a download goes -/

def outputDirectory (cwd : AbsolutePath) (outputDir : Option String) : AbsolutePath :=
  match outputDir.filter (· ≠ "") with
  | none => cwd
  | some dir => resolve cwd dir

structure SavedAs (name : Segment) (cwd directory : AbsolutePath) (file : DownloadedFile)
    (saving : Saving) : Prop where
  fileName : IsFileName name
  written : ∃ filePath, saving.written = [(filePath, file.data)] ∧
    resolve cwd filePath = directory.child name fileName.proper ∧
    ∀ returned, saving.result = .ok returned → returned = filePath

theorem resolve_download (cwd : AbsolutePath) (outputDir : Option String) {name : String}
    (proper : Segment.Proper name.toList) :
    resolve cwd (joinPath (orElse outputDir cwd.text) name) =
      (outputDirectory cwd outputDir).child name.toList proper := by
  rw [orElse, outputDirectory]
  cases given : outputDir.filter (· ≠ "") with
  | none =>
      have text : cwd.text ≠ "" := fun empty => by simp [AbsolutePath.text] at empty
      rw [Option.getD_none, resolve_joinPath cwd text proper, resolve_text]
  | some dir =>
      have nonempty : dir ≠ "" := by simpa using (Option.filter_eq_some_iff.mp given).2
      rw [Option.getD_some, resolve_joinPath cwd nonempty proper]

/-- Whatever the platform answers: an error is thrown and nothing is written, or the data of
the response is written directly into the output directory, under the name that the response
gave it if a file can have that name. -/
theorem downloadFileTo_contained (cwd : AbsolutePath) (outputDir : Option String)
    (writeFile : String → Except RequestError Unit) (sessionToken : Option String)
    (fetched : Except RequestError FileResponse) :
    let download := downloadFile sessionToken fetched
    let saving := downloadFileTo cwd outputDir writeFile download
    match download.result with
    | .error error => saving = ⟨[], .error error⟩
    | .ok file =>
        saving = ⟨[], .error invalidFilename⟩ ∧ ¬IsFileName file.filename.toList ∨
        ∃ name, SavedAs name cwd (outputDirectory cwd outputDir) file saving ∧
          (IsFileName file.filename.toList → name = file.filename.toList) := by
  dsimp only
  cases result : (downloadFile sessionToken fetched).result with
  | error error =>
      rw [downloadFileTo, result]
  | ok file =>
      rw [downloadFileTo, result]
      dsimp only
      have kept : IsFileName file.filename.toList →
          (downloadName file.filename).toList = file.filename.toList :=
        fun fileName => congrArg String.toList (downloadName_eq fileName)
      split
      · rename_i dots
        left
        refine ⟨rfl, fun fileName => ?_⟩
        have proper := fileName.proper
        rw [← kept fileName, downloadName_proper_iff] at proper
        exact proper dots
      · rename_i named
        right
        have proper := (downloadName_proper_iff file.filename).mpr named
        refine ⟨_, ⟨⟨proper, downloadName_clean _⟩, _, rfl, ?_, ?_⟩, kept⟩
        · exact resolve_download cwd outputDir proper
        · intro returned saved
          rcases map_eq_ok.mp saved with ⟨_, _, same⟩
          exact same.symm

example : downloadName "../../etc/passwd" = "passwd" := by decide

end SovAgent.Agent
