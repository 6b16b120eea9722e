import ConversionScheduler.Error
/-!
# Kinds of conversion tasks

A task has a type, which says what is converted, and a sub type, which says how. Only listed
combinations are accepted from clients.

## Main definitions

* `Task.subTypes?` — the sub types of a type.
* `Task.isKnown`, `Task.validate` — the check of a combination.
-/

namespace ConversionScheduler.Task

/-- The known types and their sub types. Images have none so far. -/
def kinds : List (String × List String) :=
  [("pdf", ["pdf2csv", "pdf2img", "pdfsplitter", "pdfmerger", "pdfrotator",
      "pdfwatermarkremover", "pdfwatermarkadder"]),
    ("csv", ["pdf2csv"]),
    ("image", [])]

/-- The sub types of a known type. -/
def subTypes? (taskType : String) : Option (List String) := kinds.lookup taskType

/-- Whether the combination is listed. -/
def isKnown (taskType subType : String) : Bool :=
  ((subTypes? taskType).getD []).contains subType

/-- Accepts listed combinations only. -/
def validate (taskType subType : String) : Except Error Unit :=
  if isKnown taskType subType then .ok () else .error (.invalidTask taskType subType)

end ConversionScheduler.Task
