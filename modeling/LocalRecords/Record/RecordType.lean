import LocalRecords.Failure

namespace LocalRecords

/-- A log entry, an audit event, journal bytes carried in the record, or journal bytes behind a
descriptor that is passed along with it. -/
inductive RecordType
  | log
  | audit
  | journal
  | passedJournal
  deriving DecidableEq, Repr

namespace RecordType

def code : RecordType → UInt16
  | log => 1
  | audit => 2
  | journal => 3
  | passedJournal => 4

def hasPayload : RecordType → Bool
  | passedJournal => false
  | _ => true

def name : RecordType → String
  | log => "log"
  | audit => "audit"
  | journal => "journal"
  | passedJournal => "journal-fd"

def ofCode (n : UInt16) : Except Failure RecordType :=
  if n = 1 then .ok log
  else if n = 2 then .ok audit
  else if n = 3 then .ok journal
  else if n = 4 then .ok passedJournal
  else .error (.unknownType n)

/-- Reads a name in any mixture of ASCII cases. The error is the text in ASCII lower case. -/
def parse (s : String) : Except String RecordType :=
  let lower := String.ofList (s.toList.map Char.toLower)
  match lower with
  | "log" => .ok log
  | "audit" => .ok audit
  | "journal" => .ok journal
  | "journal-fd" => .ok passedJournal
  | "journal_fd" => .ok passedJournal
  | other => .error other

def parseMessage (text : String) : String := s!"unknown message type: {text}"

/-- The number of a type is read back as that type. -/
theorem ofCode_code (t : RecordType) : ofCode t.code = .ok t := by cases t <;> rfl

theorem code_of_ofCode {n : UInt16} {t : RecordType} (h : ofCode n = .ok t) : t.code = n := by
  unfold ofCode at h
  split at h
  · next h1 => cases h; exact h1.symm
  split at h
  · next h2 => cases h; exact h2.symm
  split at h
  · next h3 => cases h; exact h3.symm
  split at h
  · next h4 => cases h; exact h4.symm
  · cases h

end RecordType

end LocalRecords
