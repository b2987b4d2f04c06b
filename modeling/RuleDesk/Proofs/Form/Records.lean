import RuleDesk.Form
import RuleDesk.Proofs.Rule.Records

/-!
# Rules and forms filled from blank ones

The schema of forms is faithful, as the schema of rules is. So an object that has some of the
members of a rule or a form is read as the rule or form that has these fields and is blank
elsewhere, whatever other members stand in the object and in whatever order they come. An unset
threshold track is a member with empty text, which is not the same as no member: a blank form tracks
by source.
-/

set_option autoImplicit false

namespace RuleDesk

open RuleDesk.Json

namespace Form

theorem names_nodup : (schema.fields.map Field.name).Nodup := by
  decide

/-- Each field of a form is set alone. -/
theorem isFaithfulAt (i : Nat) (h : i < schema.fields.length) : schema.IsFaithfulAt i h := by
  have hplaces : i < 32 := h
  interval_cases i
  all_goals exact Schema.isFaithfulAt_of rfl fun _ _ => rfl

/-- The values of all fields make up the form. -/
theorem readItems_write (f : Form) :
    Schema.readItems schema.blank schema.fields (schema.fields.map (·.write f)) = .ok f := by
  simp only [schema, List.map_cons, List.map_nil, Schema.readItems_cons]
  rfl

theorem isFaithful_schema : schema.IsFaithful :=
  ⟨names_nodup, isFaithfulAt, readItems_write⟩

/-- The form that agrees with another on the fields whose names are kept, and with the blank form on
the others. -/
def keeping (keep : String → Bool) (f : Form) : Form where
  action := if keep "action" then f.action else blank.action
  protocol := if keep "protocol" then f.protocol else blank.protocol
  sourceAddress := if keep "src_ip" then f.sourceAddress else blank.sourceAddress
  sourcePort := if keep "src_port" then f.sourcePort else blank.sourcePort
  direction := if keep "direction" then f.direction else blank.direction
  targetAddress := if keep "dst_ip" then f.targetAddress else blank.targetAddress
  targetPort := if keep "dst_port" then f.targetPort else blank.targetPort
  message := if keep "msg" then f.message else blank.message
  sid := if keep "sid" then f.sid else blank.sid
  revision := if keep "rev" then f.revision else blank.revision
  priority := if keep "priority" then f.priority else blank.priority
  classtype := if keep "classtype" then f.classtype else blank.classtype
  reference := if keep "reference" then f.reference else blank.reference
  content := if keep "content" then f.content else blank.content
  nocase := if keep "content_nocase" then f.nocase else blank.nocase
  negated := if keep "content_negated" then f.negated else blank.negated
  depth := if keep "depth" then f.depth else blank.depth
  offset := if keep "offset" then f.offset else blank.offset
  distance := if keep "distance" then f.distance else blank.distance
  within := if keep "within" then f.within else blank.within
  pcre := if keep "pcre" then f.pcre else blank.pcre
  established := if keep "flow_established" then f.established else blank.established
  stateless := if keep "flow_stateless" then f.stateless else blank.stateless
  toServer := if keep "flow_to_server" then f.toServer else blank.toServer
  toClient := if keep "flow_to_client" then f.toClient else blank.toClient
  fromServer := if keep "flow_from_server" then f.fromServer else blank.fromServer
  fromClient := if keep "flow_from_client" then f.fromClient else blank.fromClient
  thresholdType := if keep "threshold_type" then f.thresholdType else blank.thresholdType
  thresholdTrack := if keep "threshold_track" then f.thresholdTrack else blank.thresholdTrack
  thresholdCount := if keep "threshold_count" then f.thresholdCount else blank.thresholdCount
  thresholdSeconds :=
    if keep "threshold_seconds" then f.thresholdSeconds else blank.thresholdSeconds
  metadata := if keep "metadata" then f.metadata else blank.metadata

theorem write_keeping (keep : String → Bool) (f : Form) : ∀ field ∈ schema.fields,
    field.write (f.keeping keep) =
      if keep field.name then field.write f else field.write schema.blank := by
  intro field hfield
  obtain ⟨i, hi, rfl⟩ := List.getElem_of_mem hfield
  have hplaces : i < 32 := hi
  interval_cases i
  all_goals exact Schema.write_of_kept rfl

theorem fills_keeping : schema.Fills keeping :=
  isFaithful_schema.fills write_keeping

end Form

/-! ## Objects with some members -/

/-- An object that has some of the members of a rule, in any order and among members of other names,
is read as the rule with these fields that is blank elsewhere; and so it is with forms. All members
together give the rule or form back. An unset threshold type or track is a member too, with empty
text. -/
theorem objects_fill_from_blank :
    Rule.schema.Fills Rule.keeping ∧ Form.schema.Fills Form.keeping ∧
      (∀ r : Rule, r.keeping (fun _ => true) = r ∧ Rule.ofJson r.toJson = .ok r) ∧
      (∀ f : Form, f.keeping (fun _ => true) = f ∧ Form.ofJson f.toJson = .ok f) ∧
      (∀ r : Rule,
        (r.thresholdType = none → r.toJson.member? "threshold_type" = some (.string "")) ∧
        (r.thresholdTrack = none → r.toJson.member? "threshold_track" = some (.string ""))) ∧
      ∀ f : Form,
        (f.thresholdType = none → f.toJson.member? "threshold_type" = some (.string "")) ∧
        (f.thresholdTrack = none → f.toJson.member? "threshold_track" = some (.string "")) := by
  refine ⟨Rule.fills_keeping, Form.fills_keeping, fun r => ⟨rfl, ?_⟩, fun f => ⟨rfl, ?_⟩, ?_, ?_⟩
  · exact Rule.fills_keeping.read_object _ r _ (Schema.holdsKept_members r)
  · exact Form.fills_keeping.read_object _ f _ (Schema.holdsKept_members f)
  · intro r
    constructor
    · intro h
      cases r
      cases h
      rfl
    · intro h
      cases r
      cases h
      rfl
  · intro f
    constructor
    · intro h
      cases f
      cases h
      rfl
    · intro h
      cases f
      cases h
      rfl

/-- A rule read from two of its members, and a form with an unset track scanned from a text; beside
each stands a note that no field has. -/
theorem objects_fill_from_blank_noted :
    Rule.ofJson (.object [("note", .array [.null]), ("sid", .nat 42), ("msg", .string "Ping")]) =
        .ok { message := "Ping", sid := 42 } ∧
      Document.scan Form.schema.codec
          ⟨.object none [(⟨"note", none⟩, .array none [] none),
            (⟨"threshold_track", none⟩, .string none ""), (⟨"msg", none⟩, .string none "Ping")]
            none, none⟩ =
        .ok { message := "Ping", thresholdTrack := none } := by
  obtain ⟨hrule, hform, -⟩ := objects_fill_from_blank
  constructor
  · let ping : Rule := { message := "Ping", sid := 42 }
    refine hrule.read_object (["msg", "sid"].contains ·) ping _ ?_
    have hkept : Rule.schema.keptMembers (["msg", "sid"].contains ·) ping =
        [("msg", .string "Ping"), ("sid", .nat 42)] := rfl
    refine ⟨[("note", .array [.null])], by decide, ?_⟩
    rw [hkept]
    let expected : List (String × Value) :=
      [("msg", .string "Ping"), ("sid", .nat 42), ("note", .array [.null])]
    exact expected.reverse_perm
  · let ping : Form := { message := "Ping", thresholdTrack := none }
    refine hform.scan_object (["msg", "threshold_track"].contains ·) ping none _ ?_
    have hkept : Form.schema.keptMembers (["msg", "threshold_track"].contains ·) ping =
        [("msg", .string "Ping"), ("threshold_track", .string "")] := rfl
    refine ⟨[(⟨"note", none⟩, .array none [] none)], by decide, ?_⟩
    rw [hkept]
    let expected : List (Name × Draft) :=
      [(⟨"msg", none⟩, .string none "Ping"), (⟨"threshold_track", none⟩, .string none ""),
        (⟨"note", none⟩, .array none [] none)]
    exact expected.reverse_perm

end RuleDesk
