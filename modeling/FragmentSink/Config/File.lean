import FragmentSink.Config.Decode
import FragmentSink.Storage.FileTree

/-
  Loading a usable configuration from a document or a file.

  A file that cannot be read is refused before its text is
  looked at, and a rule is looked at only when the document
  gives settings.

  Key definitions include:
    * `Settings.ofToml`
    * `Settings.ofFile`

  Main statements:
    * `Settings.ofToml_eq_ok_iff`
-/

namespace FragmentSink

namespace Settings

------------------------------------------------------------
-- Refusals
------------------------------------------------------------

/- Why there is no usable configuration. -/
inductive Refusal where
| file (why : FileError)
| document (why : Complaint)
| rule (why : Error)
deriving DecidableEq, Repr

------------------------------------------------------------
-- Loading
------------------------------------------------------------

/- The usable configuration of a document. -/
def ofToml (document : String) : Except Refusal Settings :=
  match decode document with
  | .error why => .error (.document why)
  | .ok settings =>
      match settings.validate with
      | .error why => .error (.rule why)
      | .ok () => .ok settings

/- A document gives a usable configuration when it gives settings that break no rule. -/
theorem ofToml_eq_ok_iff
    {document : String}
    {settings : Settings} :
    ofToml document = .ok settings ↔
      decode document = .ok settings ∧
        settings.complaint? = none := by
  unfold ofToml
  cases decode document with
  | error why => simp
  | ok found =>
      cases hRule : found.complaint? with
      | none =>
          simp only [validate, hRule, Except.ok.injEq]
          constructor
          · rintro rfl
            exact ⟨rfl, hRule⟩
          · exact And.left
      | some why =>
          simp only [validate, hRule, Except.ok.injEq, reduceCtorEq,
            false_iff, not_and]
          rintro rfl
          simp [hRule]

/- The usable configuration of a file. -/
def ofFile
    (files : FileTree)
    (path : List Char) : Except Refusal Settings :=
  match files.readText path with
  | .error why => .error (.file why)
  | .ok document => ofToml document

end Settings

end FragmentSink
