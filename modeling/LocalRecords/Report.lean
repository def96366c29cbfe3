import LocalRecords.Failure

namespace LocalRecords

structure Report where
  message : String
  causes : List String := []
  deriving DecidableEq, Repr

namespace Report

def ofTransport (e : Failure) : Report where
  message := e.message
  causes := (e.source?.map IoError.message).toList

def ofIo (e : IoError) : Report where
  message := e.message

def because (message : String) (r : Report) : Report where
  message := message
  causes := r.message :: r.causes

def oneLine (r : Report) : String := ": ".intercalate (r.message :: r.causes)

def indented (blanks : Nat) (text : String) : String :=
  text.replace "\n" ("\n" ++ String.ofList (List.replicate blanks ' '))

/-- A cause with its number, which is as wide as four digits and a blank at least. -/
def numbered (n : Nat) (cause : String) : String :=
  let number := toString n
  let blanks := String.ofList (List.replicate (5 - number.length) ' ')
  blanks ++ number ++ ": " ++ indented 7 cause

def render (r : Report) : String :=
  match r.causes with
  | [] => r.message
  | [cause] => r.message ++ "\n\nCaused by:\n    " ++ indented 4 cause
  | causes =>
    let lines := (causes.zipIdx 0).map fun (cause, n) => numbered n cause
    r.message ++ "\n\nCaused by:\n" ++ "\n".intercalate lines

end Report

end LocalRecords
