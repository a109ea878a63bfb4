import SovAgent.Foundation.Base64
import SovAgent.Foundation.DoubleOrder
import SovAgent.Foundation.FirstEntries
import SovAgent.Foundation.PatternClasses
import SovAgent.Foundation.Utf8
import SovAgent.Safety.RegExp

/-! # Code that would run

A text is searched for commands as it stands and in what its escapes and base64
runs decode to. A weapon is refused everywhere; other commands are refused where
the host would run them and pass in a document.
-/

namespace SovAgent.Safety

open RegExp

/-! ## Decoders -/

def hexDigitValue (unit : UInt16) : Nat :=
  if isDigit unit then unit.toNat - 0x30 else (fold unit).toNat - 0x57

/-- `parseInt(digits, 16)` of hexadecimal digits. -/
def hexNumber (digits : Units) : Nat :=
  digits.foldl (fun value digit => value * 16 + hexDigitValue digit) 0

/-- The classes of `\x…` or `\u…` with so many digits. -/
def escapeClasses (letter : UInt16) (count : Nat) : List (UInt16 → Bool) :=
  (· == 0x5C) :: (· == letter) :: List.replicate count isHexDigit

def escapeValue (escape : Units) : Units := [.ofNat (hexNumber (escape.drop 2))]

def decodeEscapes (letter : UInt16) (count : Nat) : Units → Units :=
  (Pattern.classes (escapeClasses letter count)).replace escapeValue

/-- `/\\x([0-9a-fA-F]{2})/g` replaced. -/
def decodeHexEscapes : Units → Units := decodeEscapes 0x78 2

/-- `/\\u([0-9a-fA-F]{4})/g` replaced. -/
def decodeUnicodeEscapes : Units → Units := decodeEscapes 0x75 4

example : decodeHexEscapes (units "\\x63\\x75rl \\x7") = units "curl \\x7" := by decide

/-- A byte `%XX` at the start of a text. -/
def readOctet : Units → Option (Nat × Units)
  | percent :: high :: low :: rest =>
      if percent = 0x25 ∧ isHexDigit high = true ∧ isHexDigit low = true then
        some (hexNumber [high, low], rest)
      else none
  | _ => none

def readOctets : (count : Nat) → Units → Option (List Nat × Units)
  | 0, text => some ([], text)
  | count + 1, text => do
      let (octet, text) ← readOctet text
      let (octets, text) ← readOctets count text
      some (octet :: octets, text)

def trailingOctets (octet : Nat) : Option Nat :=
  if octet < 0x80 then some 0
  else if octet < 0xC0 then none
  else if octet < 0xE0 then some 1
  else if octet < 0xF0 then some 2
  else if octet < 0xF8 then some 3
  else none

def octetsCharacter (octets : List Nat) : Option Char :=
  match decodeUtf8From .start octets with
  | [character] => if characterBytes character = octets then some character else none
  | _ => none

/-- `decodeURIComponent(text)`, or `none` where it throws. -/
def decodeURIComponent : (fuel : Nat) → Units → Option Units
  | 0, _ => some []
  | _ + 1, [] => some []
  | fuel + 1, unit :: rest =>
      if unit = 0x25 then do
        let (octet, after) ← readOctet (unit :: rest)
        let (octets, after) ← readOctets (← trailingOctets octet) after
        let character ← octetsCharacter (octet :: octets)
        let decoded ← decodeURIComponent fuel after
        some (units (String.singleton character) ++ decoded)
      else do
        let decoded ← decodeURIComponent fuel rest
        some (unit :: decoded)

def decodeUrlEncoding (text : Units) : Units :=
  -- /%[0-9a-fA-F]{2}/
  if (Pattern.classes [(· == 0x25), isHexDigit, isHexDigit]).test text then
    (decodeURIComponent text.length text).getD text
  else text

example : decodeUrlEncoding (units "%6eC%20%E2%82%AC") = units "nC €" := by decide +kernel

def asciiText (text : Units) : String :=
  String.ofList (text.map fun unit => Char.ofNat unit.toNat)

/-- `Buffer.from(run, 'base64').toString('utf-8')`. -/
def decodeRun (run : Units) : Units :=
  units (decodeUtf8 ((Base64.decode (asciiText run)).map UInt8.toNat))

def base64Variants (text : Units) : List Units :=
  -- /[A-Za-z0-9+/]{16,}={0,2}/g
  let re := all [atLeast 16 (.one fun unit => isLetter unit || isDigit unit || isOneOf "+/" unit),
    .repeated true 0 (some 2) (verbatim "=")]
  -- /[ -~]{4,}/
  let printable : RegExp := atLeast 4 (.one fun unit => 0x20 ≤ unit ∧ unit ≤ 0x7E)
  (((re.allMatches text).take 20).map decodeRun).filter fun decoded =>
    4 < decoded.length ∧ printable.test decoded = true

/-! ## Commands -/

inductive CodeExecCategory where
  | reverseShell
  | downloadAndExecute
  | packageLifecycleExec
  | persistence
deriving DecidableEq

def CodeExecCategory.text : CodeExecCategory → String
  | reverseShell => "reverse_shell"
  | downloadAndExecute => "download_and_execute"
  | packageLifecycleExec => "package_lifecycle_exec"
  | persistence => "persistence"

inductive CodeExecTier where
  | weapon
  | contextual
deriving DecidableEq

structure CodeExecMatch where
  category : CodeExecCategory
  tier : CodeExecTier
  label : String
  matched : Units

structure CodeExecPattern where
  pattern : RegExp
  category : CodeExecCategory
  tier : CodeExecTier
  label : String

def word : RegExp := .one isWord

/-- `(?:ba|z|k|tc|da)?sh\b` -/
def shellName : RegExp :=
  all [optional (words ["ba", "z", "k", "tc", "da"]), caseless "sh", boundary]

/-- `\/bin\/(?:sh|bash)` -/
def binShell : RegExp := all [caseless "/bin/", words ["sh", "bash"]]

/-- `(?:DownloadString|Invoke-WebRequest|\bIWR\b|Net\.WebClient)` -/
def powershellDownload : RegExp :=
  oneOf [caseless "DownloadString", caseless "Invoke-WebRequest", phrase "IWR",
    caseless "Net.WebClient"]

def codeExecPatterns : List CodeExecPattern := [
  -- /\/dev\/(?:tcp|udp)\/[\w.\-]+\/\d+/i
  ⟨all [caseless "/dev/", words ["tcp", "udp"], caseless "/",
    several (.one fun unit => isWord unit || isOneOf ".-" unit), caseless "/",
    several (.one isDigit)], .reverseShell, .weapon, "dev_tcp"⟩,
  -- /\bnc(?:at)?\s+(?:-\w+\s+)*-\w*e\w*\b/i
  ⟨all [boundary, caseless "nc", optional (caseless "at"), several space,
    many (all [caseless "-", several word, several space]), caseless "-", many word, caseless "e",
    many word, boundary], .reverseShell, .weapon, "nc_exec"⟩,
  -- /\bmkfifo\b[\s\S]{0,80}?\|\s*(?:\/[\w\/]+\/)?(?:ba|z|k|tc|da)?sh\b/i
  ⟨all [phrase "mkfifo", upTo 80 anything, caseless "|", many space,
    optional (all [caseless "/", several (.one fun unit => isWord unit || isOneOf "/" unit),
      caseless "/"]), shellName], .reverseShell, .weapon, "mkfifo_backpipe"⟩,
  -- /\bsocat\b[\s\S]{0,80}?\bexec:/i
  ⟨all [phrase "socat", upTo 80 anything, boundary, caseless "exec:"],
    .reverseShell, .weapon, "socat_exec"⟩,
  -- /\bsocket\s*\.\s*socket\s*\([\s\S]{0,200}?(?:subprocess|os\.dup2|\/bin\/(?:sh|bash))/i
  ⟨all [boundary, caseless "socket", many space, caseless ".", many space, caseless "socket",
    many space, caseless "(", upTo 200 anything,
    oneOf [caseless "subprocess", caseless "os.dup2", binShell]],
    .reverseShell, .weapon, "python_revshell"⟩,
  -- /\b(?:perl|ruby|php)\b[\s\S]{0,40}?-e\b[\s\S]{0,200}?(?:fsockopen|Socket|socket)
  --   [\s\S]{0,200}?(?:exec|system|\/bin\/(?:sh|bash))/i
  ⟨all [boundary, words ["perl", "ruby", "php"], boundary, upTo 40 anything, caseless "-e",
    boundary, upTo 200 anything, words ["fsockopen", "Socket", "socket"], upTo 200 anything,
    oneOf [caseless "exec", caseless "system", binShell]],
    .reverseShell, .weapon, "script_revshell"⟩,
  -- /New-Object\s+(?:System\.)?Net\.Sockets\.TCPClient/i
  ⟨all [caseless "New-Object", several space, optional (caseless "System."),
    caseless "Net.Sockets.TCPClient"], .reverseShell, .weapon, "powershell_tcpclient"⟩,
  -- /\b(?:ba|z)?sh\s+<\(\s*(?:curl|wget|fetch)\b/i
  ⟨all [boundary, optional (words ["ba", "z"]), caseless "sh", several space, caseless "<(",
    many space, words ["curl", "wget", "fetch"], boundary],
    .downloadAndExecute, .weapon, "process_substitution"⟩,
  -- /(?:DownloadString|…)[\s\S]{0,120}?\|\s*(?:IEX|Invoke-Expression)\b/i
  ⟨all [powershellDownload, upTo 120 anything, caseless "|", many space,
    words ["IEX", "Invoke-Expression"], boundary],
    .downloadAndExecute, .weapon, "ps_iex_download"⟩,
  -- /(?:IEX|Invoke-Expression)\b[\s\S]{0,120}?(?:DownloadString|…)/i
  ⟨all [words ["IEX", "Invoke-Expression"], boundary, upTo 120 anything, powershellDownload],
    .downloadAndExecute, .weapon, "ps_iex_download2"⟩,
  -- /\b(?:curl|wget|fetch)\b[^|]{0,200}?\|\s*(?:sudo\s+)?(?:ba|z|k|tc|da)?sh\b/i
  ⟨all [boundary, words ["curl", "wget", "fetch"], boundary, upTo 200 (noneOf "|"), caseless "|",
    many space, optional (all [caseless "sudo", several space]), shellName],
    .downloadAndExecute, .contextual, "pipe_to_shell"⟩,
  -- /"(?:preinstall|postinstall|prepare|install)"\s*:\s*"[^"]{0,400}?
  --   (?:\bcurl\b|\bwget\b|\bbash\b|\bsh\b|node\s+-e|\beval\b)/i
  ⟨all [caseless "\"", words ["preinstall", "postinstall", "prepare", "install"], caseless "\"",
    many space, caseless ":", many space, caseless "\"", upTo 400 (noneOf "\""),
    oneOf [phrase "curl", phrase "wget", phrase "bash", phrase "sh",
      all [caseless "node", several space, caseless "-e"], phrase "eval"]],
    .packageLifecycleExec, .contextual, "npm_install_hook"⟩,
  -- /(?:os\.system|subprocess\.[A-Za-z_]+)\s*\([^)]{0,200}?
  --   (?:curl|wget|https?:\/\/|\/bin\/(?:sh|bash))/i
  ⟨all [oneOf [caseless "os.system", all [caseless "subprocess.",
      several (.one fun unit => isLetter unit || unit == 0x5F)]], many space, caseless "(",
    upTo 200 (noneOf ")"), oneOf [caseless "curl", caseless "wget",
      all [caseless "http", optional (caseless "s"), caseless "://"], binShell]],
    .packageLifecycleExec, .contextual, "py_install_exec"⟩,
  -- /Command::new\s*\(\s*"(?:sh|bash|curl|wget|cmd|powershell)"/i
  ⟨all [caseless "Command::new", many space, caseless "(", many space, caseless "\"",
    words ["sh", "bash", "curl", "wget", "cmd", "powershell"], caseless "\""],
    .packageLifecycleExec, .contextual, "buildrs_command"⟩,
  -- /\/\/go:generate\b[^\n]{0,120}?\b(?:curl|wget|bash|sh|eval)\b/i
  ⟨all [caseless "//go:generate", boundary, upTo 120 (noneOf "\n"), boundary,
    words ["curl", "wget", "bash", "sh", "eval"], boundary],
    .packageLifecycleExec, .contextual, "go_generate_exec"⟩,
  -- />>\s*\S{0,80}?\.ssh\/authorized_keys/i
  ⟨all [caseless ">>", many space, upTo 80 (.one fun unit => !isSpace unit),
    caseless ".ssh/authorized_keys"], .persistence, .contextual, "authorized_keys_append"⟩,
  -- />>\s*\S{0,80}?[\/.](?:bashrc|zshrc|profile|bash_profile)\b/i
  ⟨all [caseless ">>", many space, upTo 80 (.one fun unit => !isSpace unit),
    .one (isOneOf "/."), words ["bashrc", "zshrc", "profile", "bash_profile"], boundary],
    .persistence, .contextual, "shell_rc_append"⟩]

def CodeExecMatch.key (found : CodeExecMatch) : String :=
  found.category.text ++ ":" ++ found.label

def scanOnce (text : Units) : List CodeExecMatch :=
  codeExecPatterns.filterMap fun entry =>
    (entry.pattern.exec text).map fun matched =>
      { category := entry.category
        tier := entry.tier
        label := entry.label
        matched := matched.take 200 }

/-- The text and what it decodes to, each once. -/
def codeExecVariants (text : Units) : List Units :=
  let decoded := [decodeHexEscapes text, decodeUnicodeEscapes text, decodeUrlEncoding text].filter
    (· ≠ text)
  firstEntries id [text] (decoded ++ base64Variants text)

def detectCodeExec (text : Units) : List CodeExecMatch :=
  firstEntries CodeExecMatch.key [] ((codeExecVariants text).flatMap scanOnce)

/-! ## Decisions -/

structure ExecContext where
  path : Option Units := none
  executesOnHost : Option Bool := none

/-- `(?:^|\/)` -/
def pathStart : RegExp := oneOf [textStart, caseless "/"]

structure RiskyPathRule where
  re : RegExp
  label : String

def riskyPathRules : List RiskyPathRule := [
  ⟨all [pathStart, caseless ".git/hooks/"], "git_hook"⟩,
  ⟨all [pathStart, caseless "package.json", textEnd], "npm_scripts"⟩,
  ⟨all [pathStart, words ["Makefile", "makefile", "GNUmakefile"], textEnd], "makefile"⟩,
  ⟨all [pathStart, caseless ".github/workflows/"], "ci_workflow"⟩,
  -- /(?:^|\/)Dockerfile(?:\.[\w.\-]+)?$/i
  ⟨all [pathStart, caseless "Dockerfile", optional (all [caseless ".",
    several (.one fun unit => isWord unit || isOneOf ".-" unit)]), textEnd], "dockerfile"⟩,
  ⟨all [pathStart, caseless ".envrc", textEnd], "direnv"⟩,
  ⟨all [pathStart, caseless "setup.py", textEnd], "setup_py"⟩,
  ⟨all [pathStart, caseless "build.rs", textEnd], "build_rs"⟩,
  ⟨all [pathStart, caseless ".vscode/tasks.json", textEnd], "vscode_tasks"⟩,
  ⟨all [pathStart, caseless ".", words ["bashrc", "zshrc", "profile", "bash_profile",
    "bash_login"], textEnd], "shell_rc"⟩,
  ⟨all [pathStart, words ["crontab", "cron.d/"]], "crontab"⟩]

def givenPath (path : Option Units) : Option Units := path.filter (· ≠ [])

structure PathRisk where
  executesOnHost : Bool
  label : Option String

def riskyPath (path : Option Units) : PathRisk :=
  match givenPath path with
  | none => ⟨false, none⟩
  | some path =>
      match riskyPathRules.find? fun rule => rule.re.test path with
      | some rule => ⟨true, some rule.label⟩
      | none => ⟨false, none⟩

/-- `(?:^|\/)(?:README|…)[^/]*$|\.(?:md|markdown|mdx|rst)$|(?:^|\/)docs?\/` -/
def docPathRe : RegExp :=
  oneOf [
    all [pathStart, words ["README", "CHANGELOG", "CONTRIBUTING", "LICENSE"], many (noneOf "/"),
      textEnd],
    all [caseless ".", words ["md", "markdown", "mdx", "rst"], textEnd],
    all [pathStart, caseless "doc", optional (caseless "s"), caseless "/"]]

/-- `^text\/(?:markdown|x-markdown)$` -/
def docMimeRe : RegExp :=
  all [textStart, caseless "text/", words ["markdown", "x-markdown"], textEnd]

def isDocPath (path mimeType : Option Units) : Bool :=
  match givenPath path with
  | some path => docPathRe.test path
  | none => mimeType.any fun mime => mime ≠ [] ∧ docMimeRe.test mime = true

inductive CodeExecAction where
  | allow
  | warn
  | block
deriving DecidableEq

def CodeExecAction.text : CodeExecAction → String
  | allow => "allow"
  | warn => "warn"
  | block => "block"

def actionRank : CodeExecAction → Nat
  | .allow => 0
  | .warn => 1
  | .block => 2

structure CodeExecDecision where
  action : CodeExecAction
  score : ℚ
  flags : List String
  warnings : List String
  category : Option CodeExecCategory
  reason : Option String

def hostRisk (context : Option ExecContext) : Bool :=
  context.bind ExecContext.executesOnHost = some true ∨
    (riskyPath (context.bind ExecContext.path)).executesOnHost = true

def verdict (risk doc : Bool) (tier : CodeExecTier) : CodeExecAction :=
  if tier = .weapon then .block
  else if risk then .block
  else if doc then .allow
  else .warn

def CodeExecMatch.flag (found : CodeExecMatch) : String := "code:" ++ found.key

/-- What the loop over the matches carries. -/
structure Decided where
  action : CodeExecAction
  category : Option CodeExecCategory
  flags : List String
  warnings : List String

def Decided.add (risk doc : Bool) (decided : Decided) (found : CodeExecMatch) : Decided :=
  let action := verdict risk doc found.tier
  let raised := actionRank decided.action < actionRank action
  { action := if raised then action else decided.action
    category := if raised then some found.category else decided.category
    flags := if action = .block then decided.flags ++ [found.flag] else decided.flags
    warnings := if action = .warn then decided.warnings ++ [found.flag] else decided.warnings }

/-- `category.replace(/_/g, ' ')` -/
def spaced (text : String) : String :=
  String.ofList (text.toList.map fun character => if character = '_' then ' ' else character)

/-- The score of an action, where `armed` says that a weapon is among the matches. -/
def decisionScore : CodeExecAction → (armed : Bool) → ℚ
  | .block, armed => if armed then double 0.9 else double 0.8
  | .warn, _ => double 0.4
  | .allow, _ => 0

def decideCodeExec (found : List CodeExecMatch) (context : Option ExecContext)
    (mimeType : Option Units) : CodeExecDecision :=
  if found = [] then ⟨.allow, 0, [], [], none, none⟩
  else
    let risk := hostRisk context
    let doc := isDocPath (context.bind ExecContext.path) mimeType
    let decided := found.foldl (Decided.add risk doc) ⟨.allow, none, [], []⟩
    { action := decided.action
      score := decisionScore decided.action (found.any fun one => one.tier = .weapon)
      flags := firstEntries id [] decided.flags
      warnings := firstEntries id [] decided.warnings
      category := decided.category
      reason := decided.category.map fun category =>
        spaced category.text ++ " (" ++ decided.action.text ++ ")" }

end SovAgent.Safety
