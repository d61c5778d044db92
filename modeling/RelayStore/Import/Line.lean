import RelayStore.Event.Signed
import RelayStore.Text.Blank

/-! The lines of a file of events, and what each of them is worth. -/
namespace RelayStore.Import

inductive Line where
  | text (s : String)
  | unreadable (reason : String)
  deriving DecidableEq, Repr

namespace Line

def ofBytes (bytes : List UInt8) : Line :=
  match String.fromUTF8? ⟨bytes.toArray⟩ with
  | some s => .text s
  | none => .unreadable "stream did not contain valid UTF-8"

/-- A line that a newline ends. One carriage return before it belongs to the end. -/
def ended (reversed : List UInt8) : Line :=
  match reversed with
  | 13 :: rest => ofBytes rest.reverse
  | _ => ofBytes reversed.reverse

/-- Lines up to the end of the bytes. Where reading broke off there, that is a line of its own in
place of the unfinished one. -/
def split (broken : Option String) (reversed : List UInt8) : List UInt8 → List Line
  | [] =>
    match broken with
    | some reason => [.unreadable reason]
    | none => if reversed = [] then [] else [ofBytes reversed.reverse]
  | b :: rest =>
    if b = 10 then ended reversed :: split broken [] rest else split broken (b :: reversed) rest

end Line

/-- What a line of a file is. -/
inductive Verdict where
  | unreadable (reason : String)
  | blank
  | rejected (e : Error)
  | tooOld
  | good (e : Event)
  deriving DecidableEq, Repr

/-- Reads an event, with its signature or without. -/
def readEvent (verify : Bool) (text : String) : Except Error Event :=
  if verify then Event.ofSignedJson text else Event.ofJson text

def Line.verdict (verify : Bool) : Line → Verdict
  | .unreadable reason => .unreadable reason
  | .text s =>
    if Text.isBlankText s then .blank
    else match readEvent verify s with
      | .error e => .rejected e
      | .ok e => if e.createdAt < genesis then .tooOld else .good e

end RelayStore.Import
