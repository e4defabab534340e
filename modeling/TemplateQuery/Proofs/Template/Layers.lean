import TemplateQuery.Proofs.Dict
import TemplateQuery.Proofs.Template.Frame
import TemplateQuery.Template.Basic

/-!
# Layers of globals

A render starts with three layers of names: the globals of the environment, those of the template and the data. A name
has the value of the last layer that has it, and it stands where the first of these layers put it. Queries that list the
globals find them in that order.
-/
namespace TemplateQuery

/-- The names that a render takes from its data, if it accepts the data. -/
def Json.layer? : Json → Option (Dict Json)
  | .object members => some members
  | .null => some []
  | _ => none

namespace Template

variable {template : Template} {data : Json} {members : Dict Json}

/-- The names of all layers, each at its first appearance. -/
def layeredNames (template : Template) (members : Dict Json) : List String :=
  (Dict.keys template.environment.globals ++ Dict.keys template.globals ++ Dict.keys members).eraseDups

/-- The value of a name in the last layer that has it. -/
def layeredValue (template : Template) (members : Dict Json) (name : String) : Option Json :=
  (Dict.get? members name).or ((Dict.get? template.globals name).or (Dict.get? template.environment.globals name))

/-- The three layers in one dictionary. -/
def merged (template : Template) (members : Dict Json) : Dict Json :=
  (Dict.merge template.environment.globals template.globals).merge members

theorem context_of_layer (h : data.layer? = some members) :
    template.context data = .ok (.ofGlobals (.object (template.merged members))) := by
  cases data with
  | null =>
    cases h
    rfl
  | object =>
    cases h
    rfl
  | _ => cases h

theorem context_of_no_layer (h : data.layer? = none) : template.context data = .error (.type (.renderData data)) := by
  cases data with
  | null | object => cases h
  | _ => rfl

theorem keys_merged (hEnvironment : (Dict.keys template.environment.globals).Nodup) :
    Dict.keys (template.merged members) = template.layeredNames members := by
  have hBelow : (Dict.keys (Dict.merge template.environment.globals template.globals)).Nodup :=
    Dict.nodup_keys_merge hEnvironment
  -- A name that is struck out among the lower layers already would be struck out among all of them.
  rw [merged, Dict.keys_merge hBelow, layeredNames, List.eraseDups_append, List.eraseDups_append,
    Dict.eraseDups_of_nodup hBelow, Dict.keys_merge hEnvironment]
  simp [List.removeAll]

theorem nodup_keys_merged (hEnvironment : (Dict.keys template.environment.globals).Nodup) :
    (Dict.keys (template.merged members)).Nodup :=
  Dict.nodup_keys_merge (Dict.nodup_keys_merge hEnvironment)

theorem get?_merged (hTemplate : (Dict.keys template.globals).Nodup) (hMembers : (Dict.keys members).Nodup)
    (name : String) : Dict.get? (template.merged members) name = template.layeredValue members name := by
  rw [merged, Dict.get?_merge hMembers, Dict.get?_merge hTemplate, layeredValue]

/-- What a query finds that lists the members of an object which it sees as `_`. -/
theorem evaluate_extra_wildcard (document current : Json) (functions : Query.FunctionTable) (globals : Dict Json) :
    Query.evaluate ⟨document, .object globals, functions⟩ (.path .extra [.wildcard]) current =
      .ok (.nodes (Dict.values globals)) := by
  simp [Query.evaluate, Query.follow, Query.select, Query.gather, Query.Scope.start, Query.pathOperand,
    Query.isSingular, Query.Segment.isSingular, Json.children]

/-- Let no dictionary of the three layers hold a name twice. A render of an object or of null starts in a context where
each name has its value in the data, else in the globals of the template, else in those of the environment, else none.
The names stand in the order of their first appearance across the environment, the template and the data, and the query
`_.*` lists their values in that order. A render of any other data, pausing or not, fails at once. -/
theorem globals_are_layered (template : Template) (data : Json)
    (hEnvironment : (Dict.keys template.environment.globals).Nodup) (hTemplate : (Dict.keys template.globals).Nodup)
    (hData : ∀ members, data.layer? = some members → (Dict.keys members).Nodup) :
    (∀ members, data.layer? = some members →
      ∃ context globals, template.context data = .ok context ∧ context.globals = .object globals ∧
        (∀ name, context.resolve name = template.layeredValue members name) ∧
        Dict.keys globals = template.layeredNames members ∧
        HandsToQueries template.environment context (.object globals) ∧
        (∀ document functions current,
          Query.evaluate ⟨document, .object globals, functions⟩ (.path .extra [.wildcard]) current =
            .ok (.nodes ((template.layeredNames members).filterMap (template.layeredValue members)))) ∧
        template.render data = resultOf (renderNodes template.environment template.nodes ⟨context, ""⟩) ∧
        template.renderPausing data =
          (renderNodesPausing template.environment template.nodes ⟨context, ""⟩).andThen fun outcome =>
            .done (resultOf outcome)) ∧
    (data.layer? = none →
      template.render data = .error (.type (.renderData data)) ∧
        template.renderPausing data = .done (.error (.type (.renderData data)))) := by
  constructor
  · intro members hLayer
    have hContext : template.context data = .ok _ := context_of_layer hLayer
    have hValue := get?_merged hTemplate (hData members hLayer)
    refine ⟨_, _, hContext, rfl, hValue, keys_merged hEnvironment, handsToQueries_globals _ _, ?_, ?_, ?_⟩
    · intro document functions current
      rw [evaluate_extra_wildcard, Dict.values_eq_filterMap (nodup_keys_merged hEnvironment),
        keys_merged hEnvironment, funext hValue]
    · rw [render, hContext, ok_bind]
    · rw [renderPausing, hContext]
  · intro hLayer
    have hContext : template.context data = .error _ := context_of_no_layer hLayer
    constructor
    · rw [render, hContext, error_bind]
    · rw [renderPausing, hContext]

/-- A page of a site that has an author of its own. -/
def overlapping : Template where
  environment := { Environment.standard with
    globals := [("title", .string "site"), ("author", .string "site"), ("year", .ofNat 2020)] }
  nodes := []
  globals := [("author", .string "page"), ("tags", .array [])]

theorem globals_are_layered_overlapping :
    (Dict.keys overlapping.environment.globals).Nodup ∧ (Dict.keys overlapping.globals).Nodup ∧
    (Dict.keys [("tags", Json.null), ("title", .string "data"), ("draft", .bool true)]).Nodup ∧
    ∃ context globals,
      overlapping.context (.object [("tags", .null), ("title", .string "data"), ("draft", .bool true)]) = .ok context ∧
      context.globals = .object globals ∧ Dict.keys globals = ["title", "author", "year", "tags", "draft"] ∧
      context.resolve "title" = some (.string "data") ∧ context.resolve "author" = some (.string "page") ∧
      context.resolve "tags" = some .null ∧ context.resolve "forloop" = none := by
  have hEnvironment : (Dict.keys overlapping.environment.globals).Nodup := by decide
  have hTemplate : (Dict.keys overlapping.globals).Nodup := by decide
  have hData : (Dict.keys [("tags", Json.null), ("title", .string "data"), ("draft", .bool true)]).Nodup := by decide
  have hLayer : ∀ members,
      (Json.object [("tags", .null), ("title", .string "data"), ("draft", .bool true)]).layer? = some members →
        (Dict.keys members).Nodup := by
    rintro members ⟨⟩
    exact hData
  obtain ⟨context, globals, hContext, hGlobals, hValue, hNames, -⟩ :=
    (globals_are_layered overlapping _ hEnvironment hTemplate hLayer).1 _ rfl
  refine ⟨hEnvironment, hTemplate, hData, context, globals, hContext, hGlobals, ?_, ?_, ?_, ?_, ?_⟩
  · rw [hNames]
    decide
  · rw [hValue]
    rfl
  · rw [hValue]
    rfl
  · rw [hValue]
    rfl
  · rw [hValue]
    rfl

end Template

end TemplateQuery
