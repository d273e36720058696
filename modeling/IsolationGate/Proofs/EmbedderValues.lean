import IsolationGate.Proofs.ReportGroup

/-!
# The two values of the embedder policy

An embedder policy is built from a report URI in three steps, each of which can fail: the URI is
checked, and two texts made from it are turned into field values. The check is the only step that
does fail. It keeps control characters out of the URI, the two texts bring in none, and JSON escapes
what it has to, so both texts are field values; and the one that defines the group is read back as
the group of the URI, whatever characters the URI has.

## Main results

* `FieldValue.isClean_of_ofText?` — a text without control characters has no control bytes.
* `EmbedderPolicy.ofUri_settles` — when a policy is built, what it holds, and why none is built.
-/

namespace IsolationGate

namespace Http.FieldValue

/-- No byte of the value is a control byte, not even a tab. -/
def IsClean (value : FieldValue) : Prop := ∀ b ∈ value.bytes, 0x20 ≤ b ∧ b ≠ 0x7F

theorem isClean_of_ofText? {s : String} (hchars : ∀ c ∈ s.toList, IsFieldChar c)
    {value : FieldValue} (h : ofText? s = some value) : value.IsClean := by
  intro b hb
  rw [ofBytes?_eq_some_iff.1 h, Text.bytesOf, Text.encode] at hb
  obtain ⟨c, hc, hbc⟩ := List.mem_flatMap.1 hb
  exact bounds_of_mem_utf8EncodeChar (hchars c hc) hbc

/-- The datum that a value writes as JSON. -/
def datum? (value : FieldValue) : Option Datum :=
  (Text.decode? value.bytes).bind fun text => Json.read? text.toList

end Http.FieldValue

namespace Policy.EmbedderPolicy

open Http (FieldValue)

/-- The policy is one for this report URI: it has the switches and the exempted paths that it was
given, neither of its values has a control byte, and the definition of its group is a record of
three fields with the URI for the name of the group and for its one place. -/
structure IsFor (policy : EmbedderPolicy) (enforcing disabled : Bool) (uri : String)
    (exempted : ExemptedPaths) : Prop where
  settings : policy.enforcing = enforcing ∧ policy.disabled = disabled ∧ policy.exempted = exempted
  bytes : policy.value.bytes = Text.bytesOf ("require-corp; report-to=\"" ++ uri ++ "\"")
  value : policy.value.IsClean
  reportTo : policy.reportTo.IsClean
  definition : policy.reportTo.datum? =
    some (.record [("endpoints", .list [.record [("url", .text uri)]]), ("group", .text uri),
      ("max_age", .integer 86400)])

/-- The definition of a group is read back as that group. -/
theorem datum?_of_ofText? {uri : String} {value : FieldValue}
    (h : FieldValue.ofText? (reportToText uri) = some value) : value.datum? = some (group uri) := by
  rw [FieldValue.datum?, FieldValue.ofBytes?_eq_some_iff.1 h, Text.decode?_bytesOf,
    Option.bind_some, reportToText, Json.render, String.toList_ofList, read?_write_group]

theorem isFor_of_check {uri : String} (h : ReportUri.check uri = .ok ())
    (enforcing disabled : Bool) (exempted : ExemptedPaths) :
    ∃ policy, ofUri enforcing disabled uri exempted = .ok policy ∧
      policy.IsFor enforcing disabled uri exempted := by
  have hchars := ReportUri.isFieldChar_of_check h
  obtain ⟨value, reportTo, hvalue, hreportTo, hpolicy⟩ :=
    ofUri_of_check h enforcing disabled exempted
  refine ⟨_, hpolicy, ?_⟩
  exact
    { settings := ⟨rfl, rfl, rfl⟩
      bytes := FieldValue.ofBytes?_eq_some_iff.1 hvalue
      value := FieldValue.isClean_of_ofText? (isFieldChar_valueText hchars) hvalue
      reportTo := FieldValue.isClean_of_ofText? (isFieldChar_reportToText hchars) hreportTo
      definition := datum?_of_ofText? hreportTo }

theorem ofUri_of_error {uri : String} {error : ReportUriError}
    (h : ReportUri.check uri = .error error) (enforcing disabled : Bool)
    (exempted : ExemptedPaths) : ofUri enforcing disabled uri exempted = .error error := by
  rw [ofUri, h]
  rfl

/-- **When a policy is built, and what it holds.** A text has a policy, and one that is right for
it, exactly when it is a report URI; a text that is none has the error of the check and no other, so
neither of the two texts made from the URI is ever refused as a field value. -/
theorem ofUri_settles (enforcing disabled : Bool) (uri : String) (exempted : ExemptedPaths) :
    ((∃ policy, ofUri enforcing disabled uri exempted = .ok policy ∧
        policy.IsFor enforcing disabled uri exempted) ↔ ReportUri.check uri = .ok ()) ∧
      ∀ error, ofUri enforcing disabled uri exempted = .error error ↔
        ReportUri.check uri = .error error := by
  cases hcheck : ReportUri.check uri with
  | ok u =>
      obtain ⟨policy, hpolicy, hfor⟩ := isFor_of_check hcheck enforcing disabled exempted
      refine ⟨⟨fun _ => rfl, fun _ => ⟨policy, hpolicy, hfor⟩⟩, ?_⟩
      intro error
      rw [hpolicy]
      simp
  | error cause =>
      rw [ofUri_of_error hcheck enforcing disabled exempted]
      simp

end Policy.EmbedderPolicy

end IsolationGate
