import FormCheck.Finding

/-!
Reports: what a run found, entry by entry, and the markup in which it is shown. The markup
repeats labels, ids and arguments as they are.
-/

set_option autoImplicit false

namespace FormCheck

/-- One entry of a report: the id that it concerns, the label under which it speaks of
it, if there is one, and what was found. -/
structure ReportEntry where
  id : String
  label : Option String
  finding : Finding
  deriving DecidableEq

/-- The line of an entry: the label and the wording of the finding. An absent input is
named by its id, and without a label the wording stands alone. -/
def ReportEntry.text (entry : ReportEntry) : String :=
  match entry.finding, entry.label with
  | .absent _, _ | _, none => entry.finding.message
  | finding, some label => label ++ " -> " ++ finding.message

structure Report where
  entries : List ReportEntry := []
  deriving DecidableEq

namespace Report

def opening : String := "<ul style=\"text-align: start;\">"

def closing : String := "</ul>"

def isClean (report : Report) : Bool :=
  report.entries.isEmpty

/-- The report as a list in markup, one item for each entry. -/
def markup (report : Report) : String :=
  opening ++ String.join (report.entries.map fun entry => "<li>" ++ entry.text ++ "</li>") ++
    closing

def summary (report : Report) : String :=
  "valid: " ++ (if report.isClean then "true" else "false") ++ ", errors: " ++
    report.entries.length.repr

end Report

end FormCheck
