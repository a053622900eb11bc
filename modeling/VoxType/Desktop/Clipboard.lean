import VoxType.Fcitx.Client
import VoxType.Library.Effects

/-!
# Insertion through the clipboard

The text is put on the clipboard, a paste chord is sent, and what was there
before is put back. Every command that is run on the way may fail.
-/

namespace VoxType.Desktop

open Fcitx (Bytes utf8)

set_option autoImplicit false

/-- The kinds of the errors made here, and one for those of the system. -/
inductive ErrorKind
  | invalidInput
  | unsupported
  | other
  | system
  deriving DecidableEq, Repr

structure IoError where
  kind : ErrorKind
  message : String
  deriving DecidableEq, Repr

/-- What is offered as text, and what is offered in other formats. -/
structure Clipboard where
  text : Option Bytes
  others : List (String × Bytes)
  deriving DecidableEq, Repr

namespace Clipboard

def empty : Clipboard := ⟨none, []⟩

def ofText (contents : Bytes) : Clipboard := ⟨some contents, []⟩

def types (clipboard : Clipboard) : List String :=
  clipboard.text.toList.map (fun _ => "text/plain;charset=utf-8") ++ clipboard.others.map Prod.fst

/-- Nothing is listed for an empty clipboard. -/
def listed (clipboard : Clipboard) : Option Bytes :=
  if clipboard.types = [] then none
  else some (clipboard.types.flatMap fun name => utf8 name ++ [10])

end Clipboard

/-- How a command that is waited for goes; `status` is that of an exit without success. -/
inductive Awaited
  | notSpawned (error : IoError)
  | exits (status : String)
  | works
  deriving DecidableEq, Repr

/-- How a `wl-copy` goes; one that fails may have put something on the clipboard. -/
inductive WlCopy
  | notSpawned (error : IoError)
  | noStdin (put : Option Bytes)
  | notWritten (error : IoError) (put : Option Bytes)
  | notWaited (error : IoError) (put : Option Bytes)
  | exits (status : String) (put : Option Bytes)
  | works
  deriving DecidableEq, Repr

namespace WlCopy

/-- What is put on the clipboard. -/
def put (contents : Bytes) : WlCopy → Option Bytes
  | .notSpawned _ => none
  | .noStdin put | .notWritten _ put | .notWaited _ put | .exits _ put => put
  | .works => some contents

def result : WlCopy → Except IoError Unit
  | .notSpawned error | .notWritten error _ | .notWaited error _ => .error error
  | .noStdin _ => .error ⟨.other, "wl-copy stdin is unavailable"⟩
  | .exits status _ => .error ⟨.other, "wl-copy failed with " ++ status⟩
  | .works => .ok ()

def leaves (contents : Bytes) (clipboard : Clipboard) (copy : WlCopy) : Clipboard :=
  (copy.put contents).elim clipboard .ofText

end WlCopy

/-- One answer for each command of an insertion, and what somebody else copies during the delay. -/
structure Environment where
  paste : Awaited
  listTypes : Awaited
  write : WlCopy
  chord : Awaited
  copied : Option Clipboard
  check : Awaited
  restore : WlCopy
  clear : Awaited
  deriving DecidableEq, Repr

inductive DesktopEffect
  | ran (program : String) (arguments : List String) (input : Option Bytes)
  | slept (milliseconds : Nat)
  deriving DecidableEq, Repr

abbrev DesktopCall (α : Type) : Type := Effects.Call Clipboard IoError DesktopEffect α

structure InsertionResult where
  clipboardRestored : Bool
  backend : String
  deriving DecidableEq, Repr

structure ClipboardInserter where
  restoreDelay : Nat
  restoreClipboard : Bool
  deriving DecidableEq, Repr

inductive ClipboardSnapshot
  | empty
  | text (contents : Bytes)
  | unsupported
  deriving DecidableEq, Repr

def ClipboardInserter.default : ClipboardInserter :=
  { restoreDelay := 250
    restoreClipboard := true }

def ClipboardInserter.withRestore (inserter : ClipboardInserter) (restoreClipboard : Bool) :
    ClipboardInserter :=
  { inserter with restoreClipboard }

structure Output where
  success : Bool
  stdout : Bytes
  deriving DecidableEq, Repr

/-- `output` of a `wl-paste`, which has no success where there is nothing to print. -/
def wlPaste (awaited : Awaited) (arguments : List String) (printed : Clipboard → Option Bytes) :
    DesktopCall Output where
  run clipboard :=
    { result :=
        match awaited, printed clipboard with
        | .notSpawned error, _ => .error error
        | .works, some stdout => .ok ⟨true, stdout⟩
        | .works, none | .exits _, _ => .ok ⟨false, []⟩
      state := clipboard
      trace := [.ran "wl-paste" arguments none] }

def wlPasteText (awaited : Awaited) : DesktopCall Output :=
  wlPaste awaited ["--no-newline", "--type", "text"] Clipboard.text

def readClipboard (awaited : Awaited) : DesktopCall (Option Bytes) := do
  match ← (wlPasteText awaited).attempt with
  | .ok output => pure (if output.success then some output.stdout else none)
  | .error _ => pure none

def readClipboardSnapshot (env : Environment) : DesktopCall ClipboardSnapshot := do
  let text ← wlPasteText env.paste
  if text.success then pure (.text text.stdout)
  else do
    let types ← wlPaste env.listTypes ["--list-types"] Clipboard.listed
    if types.success && !types.stdout.isEmpty then pure .unsupported else pure .empty

def clipboardContentsMatch (current : Option Bytes) (expected : Bytes) : Bool :=
  current.any (· == expected)

def clipboardMatches (awaited : Awaited) (expected : Bytes) : DesktopCall Bool := do
  let current ← readClipboard awaited
  pure (clipboardContentsMatch current expected)

def clearClipboard (awaited : Awaited) : DesktopCall Bool where
  run clipboard :=
    { result := .ok (awaited == .works)
      state := if awaited = .works then .empty else clipboard
      trace := [.ran "wl-copy" ["--clear"] none] }

def writeClipboard (copy : WlCopy) (contents : Bytes) : DesktopCall Unit where
  run clipboard :=
    { result := copy.result
      state := copy.leaves contents clipboard
      trace := [.ran "wl-copy" ["--type", "text/plain;charset=utf-8"] (some contents)] }

/-- The key codes are those of the left control key and of `v`. -/
def sendPasteChord (awaited : Awaited) : DesktopCall Unit where
  run clipboard :=
    { result :=
        match awaited with
        | .notSpawned error => .error error
        | .exits status => .error ⟨.other, "ydotool failed with " ++ status⟩
        | .works => .ok ()
      state := clipboard
      trace := [.ran "ydotool" ["key", "29:1", "47:1", "47:0", "29:0"] none] }

def sleep (milliseconds : Nat) (copied : Option Clipboard) : DesktopCall Unit where
  run clipboard := ⟨.ok (), copied.getD clipboard, [.slept milliseconds]⟩

namespace ClipboardInserter

/-- What is remembered of the clipboard before it is written. -/
def previous (inserter : ClipboardInserter) (env : Environment) :
    DesktopCall (Option ClipboardSnapshot) :=
  if inserter.restoreClipboard then do
    let snapshot ← readClipboardSnapshot env
    if snapshot = .unsupported then
      .throw ⟨.unsupported, "clipboard contains non-text data that VoxType cannot restore safely"⟩
    else pure (some snapshot)
  else pure none

def restorePrevious (env : Environment) : Option ClipboardSnapshot → DesktopCall Bool
  | some (.text contents) => do
    match ← (writeClipboard env.restore contents).attempt with
    | .ok _ => pure true
    | .error _ => pure false
  | some .empty => clearClipboard env.clear
  | some .unsupported | none => pure false

/-- The end of `insert`, after the delay. -/
def restored (inserter : ClipboardInserter) (env : Environment) (contents : Bytes)
    (previous : Option ClipboardSnapshot) : DesktopCall Bool :=
  if inserter.restoreClipboard then do
    if ← clipboardMatches env.check contents then restorePrevious env previous else pure false
  else pure false

def insert (inserter : ClipboardInserter) (env : Environment) (text : String) :
    DesktopCall InsertionResult :=
  if text = "" then .throw ⟨.invalidInput, "refusing to insert empty text"⟩
  else do
    let previous ← inserter.previous env
    writeClipboard env.write (utf8 text)
    sendPasteChord env.chord
    sleep inserter.restoreDelay env.copied
    let clipboardRestored ← inserter.restored env (utf8 text) previous
    pure ⟨clipboardRestored, "wl-copy+ydotool"⟩

/-- Copying alone sends no keys. -/
def copy (_inserter : ClipboardInserter) (env : Environment) (text : String) :
    DesktopCall InsertionResult :=
  if text = "" then .throw ⟨.invalidInput, "refusing to copy empty text"⟩
  else do
    writeClipboard env.write (utf8 text)
    pure ⟨false, "copy-only"⟩

end ClipboardInserter

end VoxType.Desktop
