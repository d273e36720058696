import IsolationGate.Http.Message
import IsolationGate.Policy.ExemptedPaths

/-!
# Resource isolation by Fetch Metadata

Browsers say with each request where it comes from (`sec-fetch-site`), how it was made
(`sec-fetch-mode`) and what it is for (`sec-fetch-dest`). A request is allowed when it says nothing
about its site, when its site is trusted, or when it is a `GET` navigation that is not loaded into
an object or embed element; every other request is rejected. All comparisons are exact.

The filter does not judge requests for exempted paths. Every answer that passes the filter varies on
the three fields.
-/

namespace IsolationGate.Policy

open Http (FieldName FieldValue Fields Method)

/-- What becomes of a request. -/
inductive Decision where
  | allow
  | reject
  deriving Repr, DecidableEq

/-- The word for a decision. -/
def Decision.word : Decision → String
  | allow => "allow"
  | reject => "reject"

/-- What a request says about itself. -/
structure FetchMetadata where
  site : Option String
  mode : Option String
  dest : Option String
  method : String
  deriving Repr, DecidableEq

namespace FetchMetadata

/-- The name `sec-fetch-site`. -/
def siteName : FieldName := ⟨"sec-fetch-site"⟩

/-- The name `sec-fetch-mode`. -/
def modeName : FieldName := ⟨"sec-fetch-mode"⟩

/-- The name `sec-fetch-dest`. -/
def destName : FieldName := ⟨"sec-fetch-dest"⟩

/-- The first value of a name, if it is plain text. -/
def plainValue (fields : Fields) (name : FieldName) : Option String :=
  (fields.get? name).bind FieldValue.text?

theorem plainValue_eq_some_iff {fields : Fields} {name : FieldName} {s : String} :
    plainValue fields name = some s ↔
      ∃ value, (fields.values name).head? = some value ∧
        (∀ b ∈ value.bytes, Http.isPlainByte b = true) ∧ value.bytes = Text.bytesOf s := by
  simp only [plainValue, Fields.get?, Option.bind_eq_some_iff, FieldValue.text?_eq_some_iff]

/-- What the fields and the method of a request say. A value that is not plain text counts as
absent. -/
def ofRequest (fields : Fields) (method : Method) : FetchMetadata :=
  ⟨plainValue fields siteName, plainValue fields modeName, plainValue fields destName,
    method.text⟩

/-- The sites whose requests are allowed whatever else they say. -/
def trustedSites : List String := ["same-origin", "same-site", "none"]

/-- The destinations that a navigation may not have. -/
def refusedDestinations : List String := ["object", "embed"]

/-- A navigation of the whole page. -/
def isNavigation (m : FetchMetadata) : Bool :=
  m.mode == some "navigate" && m.method == Method.get.text &&
    !(m.dest.any fun dest => refusedDestinations.contains dest)

/-- The decision on what a request says. -/
def evaluate (m : FetchMetadata) : Decision :=
  match m.site with
  | none => .allow
  | some site =>
      if trustedSites.contains site || m.isNavigation then .allow else .reject

theorem evaluate_eq_reject_iff {m : FetchMetadata} :
    m.evaluate = .reject ↔
      (∃ site, m.site = some site ∧ site ∉ trustedSites) ∧ m.isNavigation = false := by
  unfold evaluate
  cases hsite : m.site with
  | none => simp
  | some site =>
      simp only [Option.some.injEq, exists_eq_left']
      by_cases htrusted : site ∈ trustedSites
      · simp [htrusted]
      · cases m.isNavigation <;> simp [htrusted]

end FetchMetadata

/-- The filter: the decision, and the paths that it does not judge. -/
structure FetchMetadataFilter where
  exempted : ExemptedPaths
  deriving Repr, DecidableEq

namespace FetchMetadataFilter

/-- The decision on a request for a path. -/
def judge (filter : FetchMetadataFilter) (path : String) (m : FetchMetadata) : Decision :=
  if filter.exempted.contains path then .allow else m.evaluate

theorem judge_eq_reject_iff {filter : FetchMetadataFilter} {path : String} {m : FetchMetadata} :
    filter.judge path m = .reject ↔ path ∉ filter.exempted.paths ∧ m.evaluate = .reject := by
  unfold judge
  by_cases hpath : path ∈ filter.exempted.paths
  · simp [ExemptedPaths.contains_iff.2 hpath, hpath]
  · have hout : filter.exempted.contains path = false := by
      rw [← Bool.not_eq_true, ExemptedPaths.contains_iff]
      exact hpath
    simp [hout, hpath]

end FetchMetadataFilter

/-! ## The fields that answers vary on -/

/-- The value of `vary` on every filtered answer. -/
def varyText : String := "sec-fetch-dest, sec-fetch-site, sec-fetch-mode"

/-- The value of `vary` on every filtered answer. -/
def varyValue : FieldValue := .ofAscii varyText

/-- The value is the one of filtered answers, in any case of its letters. -/
def isVaryValue (value : FieldValue) : Bool :=
  value.bytes.map Http.smallByte == varyValue.bytes.map Http.smallByte

/-- The value of filtered answers put behind the others, unless it is among them. -/
def addVary (fields : Fields) : Fields :=
  if (fields.values .vary).any isVaryValue then fields else fields.append .vary varyValue

@[simp] theorem values_addVary_of_ne {name : FieldName} (h : name ≠ .vary) (fields : Fields) :
    (addVary fields).values name = fields.values name := by
  unfold addVary
  split
  · rfl
  · exact Fields.values_append_of_ne h fields varyValue

end IsolationGate.Policy
