import IsolationGate.Proofs.JsonText
import IsolationGate.Proofs.StructuredItem
import IsolationGate.Proofs.ValidConfig

/-!
# The group that reports go to

The embedder policy names a group, and another field defines it. Both are made from the report URI,
but by different means: the definition is JSON, in which the URI is escaped where it has to be, and
the policy has the URI between quotes as it stands. So the definition is read back for every URI,
and the policy only for those that need no escape: a URI with a quote or a backslash or a character
beyond ASCII makes a value that names no such group, although it is a report URI.

## Main results

* `read?_write_group` — the definition is read back.
* `item?_value_iff` — when the policy is.
* `namesGroup_iff` — both for a policy that is built.
-/

namespace IsolationGate.Policy.EmbedderPolicy

open Http (FieldValue)
open Json

/-- The text of the group, string by string. -/
theorem write_group_strings (uri : String) :
    write (group uri) =
      '\x7b' :: (writeString "endpoints".toList ++ ':' :: '[' :: '\x7b' ::
        (writeString "url".toList ++ ':' :: (writeString uri.toList ++ '\x7d' :: ']' :: ',' ::
          (writeString "group".toList ++ ':' :: (writeString uri.toList ++ ',' ::
            (writeString "max_age".toList ++ ':' :: '8' :: '6' :: '4' :: '0' :: '0' ::
              ['\x7d'])))))) := by
  have hopen : "\x7b\"endpoints\":[\x7b\"url\":".toList = '\x7b' ::
      (writeString "endpoints".toList ++ ':' :: '[' :: '\x7b' ::
        (writeString "url".toList ++ [':'])) := by decide +kernel
  have hname : "\x7d],\"group\":".toList =
      '\x7d' :: ']' :: ',' :: (writeString "group".toList ++ [':']) := by decide +kernel
  have hage : ",\"max_age\":86400\x7d".toList =
      ',' :: (writeString "max_age".toList ++ ':' :: '8' :: '6' :: '4' :: '0' :: '0' ::
        ['\x7d']) := by decide +kernel
  rw [write_group, hopen, hname, hage]
  simp only [List.cons_append, List.append_assoc, List.nil_append]

/-- The list of the one place that reports go to. -/
theorem readValue_endpoints (fuel : Nat) (uri : String) (rest : List Char) :
    readValue (fuel + 5) ('[' :: '\x7b' ::
        (writeString "url".toList ++ ':' :: (writeString uri.toList ++ '\x7d' :: ']' :: rest))) =
      some (.list [.record [("url", .text uri)]], rest) := by
  have huri : readValue (fuel + 1) (writeString uri.toList ++ '\x7d' :: ']' :: rest) =
      some (.text uri, '\x7d' :: ']' :: rest) := readValue_text fuel uri _
  have hrecord : readValue (fuel + 3) ('\x7b' :: (writeString "url".toList ++ ':' ::
      (writeString uri.toList ++ '\x7d' :: ']' :: rest))) =
        some (.record [("url", .text uri)], ']' :: rest) := by
    rw [readValue_record, readFields_cons (skipSpace_writeString _ _) huri]
    rfl
  rw [readValue_list, readItems, hrecord]
  rfl

/-- The names of the group come in their order. -/
theorem insertField_group (endpoints name age : Datum) :
    insertField "max_age" age (insertField "group" name (insertField "endpoints" endpoints [])) =
      [("endpoints", endpoints), ("group", name), ("max_age", age)] := by
  have hgroup : ¬ "group" < "endpoints" ∧ "group" ≠ "endpoints" := by decide
  have hage : ¬ "max_age" < "endpoints" ∧ "max_age" ≠ "endpoints" ∧ ¬ "max_age" < "group" ∧
      "max_age" ≠ "group" := by decide
  simp [insertField, hgroup, hage]

/-- **The group is read back** from its text. -/
theorem read?_write_group (uri : String) : Json.read? (write (group uri)) = some (group uri) := by
  have hlength : 10 ≤ (write (group uri)).length := by
    rw [write_group_strings]
    simp [writeString]
    omega
  obtain ⟨fuel, hfuel⟩ := Nat.exists_eq_add_of_le' hlength
  have hage : ∀ more, readValue (more + 1) ['8', '6', '4', '0', '0', '\x7d'] =
      some (.integer maxAge, ['\x7d']) := fun _ => rfl
  have hread : readValue (fuel + 11) (write (group uri)) = some (group uri, []) := by
    rw [write_group_strings, readValue_record,
      readFields_cons rfl (readValue_endpoints (fuel + 4) uri _)]
    show (readFields (fuel + 9) (skipSpace (writeString "group".toList ++ _)) _).map _ = _
    rw [skipSpace_writeString, readFields_cons (skipSpace_writeString _ _)
      (readValue_text (fuel + 7) uri _)]
    show (readFields (fuel + 8) (skipSpace (writeString "max_age".toList ++ _)) _).map _ = _
    rw [skipSpace_writeString, readFields_cons rfl (hage (fuel + 6))]
    show some (Datum.record (insertField "max_age" _ (insertField "group" _
      (insertField "endpoints" _ []))), []) = _
    rw [insertField_group]
    rfl
  have hstart : skipSpace (write (group uri)) = write (group uri) := by
    rw [write_group_strings]
    rfl
  rw [Json.read?, hstart, hfuel, hread]
  rfl

/-! ## The name in the policy -/

open Http.Structured (Bare Item item? isMarked isPrintable readBare readItem readKey readParameter
  readParameters readText readText_plain readText_spec text_of_readParameters isPrintable_iff)

/-- The value up to the name of the group. -/
def opening : List Char := "require-corp; report-to=\"".toList

/-- The item whose one parameter names a group. -/
def groupItem (name : String) : Item := ⟨.token "require-corp", [("report-to", .text name)]⟩

/-- What stands before the name is read, whatever follows it. -/
theorem readItem_opening (cs : List Char) :
    readItem (opening ++ cs) = (readText cs).bind fun p =>
      (readParameters (cs.length + 13) [("report-to", .text (String.ofList p.1))] p.2).bind fun q =>
        if q.2.all (· == ' ') then some ⟨.token "require-corp", q.1⟩ else none := by
  have hbare : readBare ((opening ++ cs).dropWhile (· == ' ')) =
      some (.token "require-corp", "; report-to=\"".toList ++ cs) := rfl
  have hlength : ("; report-to=\"".toList ++ cs).length + 1 = cs.length + 13 + 1 := by
    rw [List.length_append]
    show 13 + cs.length + 1 = _
    omega
  have hparameter : readParameter (" report-to=\"".toList ++ cs) =
      (readText cs).map fun p => (("report-to", .text (String.ofList p.1)), p.2) := by
    have hkey : readKey ((" report-to=\"".toList ++ cs).dropWhile (· == ' ')) =
        some ("report-to", '=' :: '\x22' :: cs) := rfl
    rw [readParameter, hkey]
    show (readBare ('\x22' :: cs)).map _ = _
    rw [readBare, if_pos rfl, Option.map_map]
    rfl
  rw [readItem, hbare, Option.bind_some]
  dsimp only
  rw [hlength]
  show Option.bind (readParameters _ [] (';' :: (" report-to=\"".toList ++ cs))) _ = _
  rw [readParameters, hparameter]
  cases readText cs <;> rfl

/-- The characters that are read from a value: those of the bytes of the URI, between quotes. -/
theorem toList_value {uri : String} {value : FieldValue}
    (h : FieldValue.ofText? (valueText uri) = some value) :
    (Text.ofAscii value.bytes).toList =
      opening ++ ((Text.ofAscii (Text.bytesOf uri)).toList ++ ['\x22']) := by
  have hbytes := FieldValue.ofBytes?_eq_some_iff.1 h
  have hopening : (Text.ofAscii (Text.bytesOf "require-corp; report-to=\"")).toList = opening := by
    decide +kernel
  have hquote : (Text.ofAscii (Text.bytesOf "\"")).toList = ['\x22'] := by decide +kernel
  have hsplit : ∀ a b c : String, (Text.ofAscii (Text.bytesOf (a ++ b ++ c))).toList =
      (Text.ofAscii (Text.bytesOf a)).toList ++
        ((Text.ofAscii (Text.bytesOf b)).toList ++ (Text.ofAscii (Text.bytesOf c)).toList) := by
    intro a b c
    rw [Text.bytesOf_append, Text.bytesOf_append, Text.toList_ofAscii_append,
      Text.toList_ofAscii_append, List.append_assoc]
  rw [hbytes]
  exact (hsplit _ uri _).trans
    (congr (congrArg (· ++ ·) hopening)
      (congrArg ((Text.ofAscii (Text.bytesOf uri)).toList ++ ·) hquote))

/-- **The policy names the group of its URI** exactly when the URI needs no escape between
quotes. -/
theorem item?_value_iff {uri : String} (huri : ∀ c ∈ uri.toList, Http.IsFieldChar c)
    {value : FieldValue} (h : FieldValue.ofText? (valueText uri) = some value) :
    item? value = some (groupItem uri) ↔
      ∀ c ∈ uri.toList, c.toNat < 0x80 ∧ c ≠ '\x22' ∧ c ≠ '\\' := by
  rw [item?, toList_value h, readItem_opening]
  constructor
  · intro hitem
    obtain ⟨⟨text, rest⟩, htext, hmore⟩ := Option.bind_eq_some_iff.1 hitem
    obtain ⟨⟨parameters, after⟩, hparameters, hblank⟩ := Option.bind_eq_some_iff.1 hmore
    have hgroup : parameters = [("report-to", .text uri)] := by
      split at hblank
      · exact congrArg Item.parameters (Option.some.inj hblank)
      · cases hblank
    obtain ⟨hprintable, hlength⟩ := readText_spec htext
    have hmem : ("report-to", Bare.text uri) ∈ parameters := hgroup ▸ List.mem_singleton.2 rfl
    have hascii : (∀ c ∈ uri.toList, isPrintable c = true) →
        (Text.ofAscii (Text.bytesOf uri)).toList.length = uri.toList.length := by
      intro hall
      rw [Text.bytesOf, Text.ofAscii_encode fun c hc => (isPrintable_iff.1 (hall c hc)).2]
    rw [List.length_append, List.length_singleton] at hlength
    dsimp only at hparameters
    rcases text_of_readParameters hparameters hmem with hseen | ⟨hall, hlt⟩
    · -- The URI is the text that was read first, so no character of it took two.
      have hsame : uri.toList = text := by
        have hinj := Bare.text.inj (congrArg Prod.snd (List.mem_singleton.1 hseen))
        rw [hinj, String.toList_ofList]
      rw [← hsame] at hprintable hlength
      rw [hascii hprintable] at hlength
      have hnone : uri.toList.countP isMarked = 0 := by omega
      intro c hc
      have hplain := List.countP_eq_zero.1 hnone c hc
      simp only [isMarked, Bool.or_eq_true, decide_eq_true_eq, not_or] at hplain
      exact ⟨(isPrintable_iff.1 (hprintable c hc)).2, hplain⟩
    · -- A text behind the first one is too short to be the URI.
      rw [hascii hall] at hlength
      omega
  · intro hplain
    have hread : readText ((Text.ofAscii (Text.bytesOf uri)).toList ++ ['\x22']) =
        some (uri.toList, []) := by
      rw [Text.bytesOf, Text.ofAscii_encode fun c hc => (hplain c hc).1]
      refine readText_plain (fun c hc => ?_) []
      obtain ⟨hlt, hquote, hslash⟩ := hplain c hc
      obtain ⟨hlow, hdelete⟩ := huri c hc
      constructor
      · rw [isPrintable, Bool.and_eq_true, decide_eq_true_eq, decide_eq_true_eq]
        omega
      · simp [isMarked, hquote, hslash]
    rw [hread, Option.bind_some]
    dsimp only
    rw [String.ofList_toList]
    rfl

/-! ## Both fields -/

/-- The group that a value defines. -/
def definedGroup? (value : FieldValue) : Option String :=
  (Text.decode? value.bytes).bind fun text =>
    (Json.read? text.toList).bind fun datum =>
      match datum.field? "group" with
      | some (.text name) => some name
      | _ => none

/-- The group of a URI is defined whatever the URI is. -/
theorem definedGroup?_of_ofText? {uri : String} {value : FieldValue}
    (h : FieldValue.ofText? (reportToText uri) = some value) : definedGroup? value = some uri := by
  have hbytes := FieldValue.ofBytes?_eq_some_iff.1 h
  rw [definedGroup?, hbytes, Text.decode?_bytesOf, Option.bind_some, reportToText, Json.render,
    String.toList_ofList, read?_write_group]
  rfl

/-- **The policy and the definition of its group.** Every report URI has a policy. The definition
defines the group of the URI, whatever the URI is. The policy names this group and nothing else
exactly when the URI is ASCII without quotes and backslashes. -/
theorem namesGroup_iff {uri : String} (h : ReportUri.check uri = .ok ())
    (enforcing disabled : Bool) (exempted : ExemptedPaths) :
    ∃ policy, ofUri enforcing disabled uri exempted = .ok policy ∧
      definedGroup? policy.reportTo = some uri ∧
      (item? policy.value = some (groupItem uri) ↔
        ∀ c ∈ uri.toList, c.toNat < 0x80 ∧ c ≠ '\x22' ∧ c ≠ '\\') := by
  obtain ⟨value, reportTo, hvalue, hreportTo, hpolicy⟩ :=
    ofUri_of_check h enforcing disabled exempted
  exact ⟨_, hpolicy, definedGroup?_of_ofText? hreportTo,
    item?_value_iff (ReportUri.isFieldChar_of_check h) hvalue⟩

/-- The usual report URI: the policy names the group that is defined. -/
theorem ownReports_named :
    ReportUri.check "/coep-reports" = .ok () ∧
      ∃ policy, ofUri true false "/coep-reports" .empty = .ok policy ∧
        definedGroup? policy.reportTo = some "/coep-reports" ∧
        item? policy.value = some (groupItem "/coep-reports") := by
  have hcheck : ReportUri.check "/coep-reports" = .ok () := by rfl
  obtain ⟨policy, hpolicy, hgroup, hitem⟩ := namesGroup_iff hcheck true false .empty
  have hplain : ("/coep-reports".toList.all fun c =>
      c.toNat < 0x80 ∧ c ≠ '\x22' ∧ c ≠ '\\') = true := by decide +kernel
  refine ⟨hcheck, policy, hpolicy, hgroup, hitem.2 fun c hc => ?_⟩
  exact of_decide_eq_true (List.all_eq_true.1 hplain c hc)

/-- A quote in a report URI ends the text in the policy too early, and what is left is no parameter:
the value is no item at all. -/
theorem quotedReports_garbled :
    ReportUri.check "/a\"b" = .ok () ∧
      ∃ policy, ofUri true false "/a\"b" .empty = .ok policy ∧
        definedGroup? policy.reportTo = some "/a\"b" ∧ item? policy.value = none := by
  have hcheck : ReportUri.check "/a\"b" = .ok () := by rfl
  obtain ⟨value, reportTo, hvalue, hreportTo, hpolicy⟩ := ofUri_of_check hcheck true false .empty
  refine ⟨hcheck, _, hpolicy, definedGroup?_of_ofText? hreportTo, ?_⟩
  rw [item?, toList_value hvalue]
  decide +kernel

end IsolationGate.Policy.EmbedderPolicy
