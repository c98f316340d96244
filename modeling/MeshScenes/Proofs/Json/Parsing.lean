import MeshScenes.Json.Reader
import MeshScenes.Proofs.Json.Lexing
import MeshScenes.Proofs.Text.Utf8

/-!
# Reading printed values

Every value is read back from its text, as characters or as the bytes of a file, in either layout.
-/

namespace MeshScenes.Json

variable {s s' : State} {stack : List Frame} {t : Token} {ts rest : List Token}

theorem run_cons (h : s.step t = some s') : s.run (t :: ts) = s'.run ts := by
  unfold State.run
  rw [List.foldlM_cons, h]
  rfl

/-- In the state a value comes next, inside of the stack. -/
def Expects (s : State) (stack : List Frame) : Prop :=
  ∀ t, t ≠ .closeArray → s.step t = State.begin stack t

theorem expects_value (stack : List Frame) : Expects (.value stack) stack := fun _ _ => rfl

theorem expects_item (stack : List Frame) : Expects (.item stack) (.array [] :: stack) := by
  intro t ht
  cases t with
  | closeArray => exact absurd rfl ht
  | _ => rfl

theorem step_name (stack : List Frame) (fields : List (Option String × JsonValue))
    (name : Option String) :
    (State.name stack fields).step (nameToken name) = some (.colon stack fields name) := by
  cases name <;> rfl

theorem step_firstName (stack : List Frame) (name : Option String) :
    (State.firstName stack).step (nameToken name) = some (.colon stack [] name) := by
  cases name <;> rfl

theorem run_scalar (hs : Expects s stack) (v : JsonValue) :
    s.run (.scalar v :: rest) = (State.complete stack v).run rest :=
  run_cons (hs _ (by simp))

theorem step_openArray (hs : Expects s stack) : s.step .openArray = some (.item stack) :=
  hs _ (by simp)

theorem step_openObject (hs : Expects s stack) : s.step .openObject = some (.firstName stack) :=
  hs _ (by simp)

mutual

theorem run_tokensOf :
    ∀ (v : JsonValue) {s : State} {stack : List Frame} (rest : List Token), Expects s stack →
    s.run (tokensOf v ++ rest) = (State.complete stack v).run rest
  | .null, _, _, _, hs => run_scalar hs _
  | .bool _, _, _, _, hs => run_scalar hs _
  | .natural _, _, _, _, hs => run_scalar hs _
  | .otherNumber, _, _, _, hs => run_scalar hs _
  | .text _, _, _, _, hs => run_scalar hs _
  | .damagedText, _, _, _, hs => run_scalar hs _
  | .array [], _, _, _, hs => (run_cons (step_openArray hs)).trans (run_cons rfl)
  | .array (v :: vs), s, stack, rest, hs => by
    unfold tokensOf
    rw [List.cons_append, run_cons (step_openArray hs), List.append_assoc,
      run_tokensOf v _ (expects_item stack), List.append_assoc]
    exact run_itemTokens vs [] v stack rest
  | .object [], _, _, _, hs => (run_cons (step_openObject hs)).trans (run_cons rfl)
  | .object ((name, v) :: fs), s, stack, rest, hs => by
    unfold tokensOf
    rw [List.cons_append, run_cons (step_openObject hs), List.cons_append,
      run_cons (step_firstName stack name), List.cons_append, run_cons rfl, List.append_assoc,
      run_tokensOf v _ (expects_value _), List.append_assoc]
    exact run_fieldTokens fs [] name v stack rest

theorem run_itemTokens :
    ∀ (vs done : List JsonValue) (v : JsonValue) (stack : List Frame) (rest : List Token),
    (State.complete (.array done :: stack) v).run (itemTokens vs ++ .closeArray :: rest) =
      (State.complete stack (.array ((v :: done).reverse ++ vs))).run rest
  | [], done, v, stack, rest => by
    rw [List.append_nil]
    exact run_cons rfl
  | w :: vs, done, v, stack, rest => by
    unfold itemTokens
    rw [List.cons_append, run_cons rfl, List.append_assoc, run_tokensOf w _ (expects_value _),
      run_itemTokens vs (v :: done) w stack rest, List.reverse_cons, List.append_assoc]
    rfl

theorem run_fieldTokens :
    ∀ (fs done : List (Option String × JsonValue)) (name : Option String) (v : JsonValue)
    (stack : List Frame) (rest : List Token),
    (State.complete (.object done name :: stack) v).run (fieldTokens fs ++ .closeObject :: rest) =
      (State.complete stack (.object (((name, v) :: done).reverse ++ fs))).run rest
  | [], done, name, v, stack, rest => by
    rw [List.append_nil]
    exact run_cons rfl
  | (key, w) :: fs, done, name, v, stack, rest => by
    unfold fieldTokens
    rw [List.cons_append, run_cons rfl, List.cons_append, run_cons (step_name stack _ key),
      List.cons_append, run_cons rfl, List.append_assoc, run_tokensOf w _ (expects_value _),
      run_fieldTokens fs ((name, v) :: done) key w stack rest, List.reverse_cons, List.append_assoc]
    rfl

end

end MeshScenes.Json

namespace MeshScenes.JsonValue

open Json

theorem ofSpots?_print {style : Style} (hstyle : Lays style) (v : JsonValue) :
    ofSpots? ((print style 0 v).map some) = some v := by
  have htokens : tokens ((print style 0 v).map some) = some (tokensOf v) := by
    have hlexes := lexes_print hstyle v 0 [] (fun spot hspot => by cases hspot)
    rw [List.append_nil] at hlexes
    unfold tokens
    rw [hlexes]
    show some (tokensOf v ++ []) = _
    rw [List.append_nil]
  have hrun : (State.value []).run (tokensOf v) = some (.complete [] v) := by
    have h := run_tokensOf v [] (expects_value [])
    rw [List.append_nil] at h
    exact h
  unfold ofSpots?
  rw [htokens]
  show ((State.value []).run (tokensOf v)).bind State.value? = _
  rw [hrun]
  rfl

theorem parse?_pretty (v : JsonValue) : parse? v.pretty = some v := by
  unfold parse? pretty
  rw [String.toList_ofList]
  exact ofSpots?_print lays_pretty v

theorem parse?_compact (v : JsonValue) : parse? v.compact = some v := by
  unfold parse? compact
  rw [String.toList_ofList]
  exact ofSpots?_print lays_compact v

theorem ofBytes?_encode (text : String) : ofBytes? (Utf8.encode text) = parse? text := by
  unfold ofBytes? parse?
  rw [Utf8.spots_encode]

end MeshScenes.JsonValue
