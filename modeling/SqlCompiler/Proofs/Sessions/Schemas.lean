import SqlCompiler.Session.Schema

namespace SqlCompiler

def Request.ofText (sql : String) : Request := ⟨.effect, ⟨sql, []⟩⟩

def Target.checksOff (t : Target) : Request := .ofText t.disableForeignKeys

def Target.checksOn (t : Target) : Request := .ofText t.enableForeignKeys

/-- The server takes the texts one after the other. -/
def Server.Accepts (server : Server) (sent : List Request) : List String → Prop
  | [] => True
  | sql :: rest =>
    (∃ answer, server.effect sent ⟨sql, []⟩ = .ok answer) ∧ server.Accepts (sent ++ [.ofText sql]) rest

def Session.Appends {α : Type} (x : Session α) : Prop := ∀ server sent, ∃ own, (x server sent).2 = sent ++ own

/-- Sessions that are made of operations on a schema, each with what came of those before it. They may go on after an
error, and may fail on their own. -/
inductive Target.Schematic (t : Target) : {α : Type} → Session α → Prop
  | of {α : Type} (result : Except Error α) : t.Schematic (Session.of result)
  | run (b : Blueprint) : t.Schematic (b.run t)
  | runText (sql : String) : t.Schematic (Target.runText sql)
  | ask {α : Type} (question : Except Error String) (read : Row → Except Error α) :
    t.Schematic (Target.ask question read)
  | bind {α β : Type} {x : Session α} {f : α → Session β} (first : t.Schematic x) (later : ∀ a, t.Schematic (f a)) :
    t.Schematic (x >>= f)
  | attempt {α : Type} {x : Session α} (tried : t.Schematic x) : t.Schematic x.attempt

/-- The result of a session that has the checks turned on again behind it. -/
def settled {α : Type} (result : Except Error α) (enabled : Except Error Bool) : Except Error α :=
  match result, enabled with
  | .error e, _ => .error e
  | .ok _, .error e => .error e
  | .ok a, .ok _ => .ok a

namespace Session

variable {α β : Type} {x : Session α} {server : Server} {sent : List Request}

theorem bind_ok {f : α → Session β} {a : α} {after : List Request} (first : x server sent = (.ok a, after)) :
    (x >>= f) server sent = f a server after := by
  change Session.bind x f server sent = _
  rw [Session.bind, first]

theorem bind_error {f : α → Session β} {e : Error} {after : List Request} (first : x server sent = (.error e, after)) :
    (x >>= f) server sent = (.error e, after) := by
  change Session.bind x f server sent = _
  rw [Session.bind, first]

theorem discard_effect (s : Statement) (server : Server) (sent : List Request) :
    discard (effect s) server sent = (discard (server.effect sent s), sent ++ [⟨.effect, s⟩]) := by
  cases answered : server.effect sent s with
  | error e => exact bind_error (by rw [effect, answered])
  | ok answer => exact bind_ok (by rw [effect, answered])

theorem effects_cases (server : Server) (sent : List Request) (texts : List String) :
    (server.Accepts sent texts ∧ effects (texts.map fun sql => ⟨sql, []⟩) server sent =
        (.ok (), sent ++ texts.map .ofText)) ∨
      ∃ accepted refused rest e, texts = accepted ++ refused :: rest ∧ server.Accepts sent accepted ∧
        server.effect (sent ++ accepted.map .ofText) ⟨refused, []⟩ = .error e ∧
        effects (texts.map fun sql => ⟨sql, []⟩) server sent =
          (.error e, sent ++ (accepted ++ [refused]).map .ofText) := by
  induction texts generalizing sent with
  | nil => exact .inl ⟨True.intro, by simp [effects, Session.pure]⟩
  | cons sql texts ih =>
    cases answered : server.effect sent ⟨sql, []⟩ with
    | error e =>
      refine .inr ⟨[], sql, texts, e, rfl, True.intro, by simpa using answered, ?_⟩
      have stopped : discard (effect ⟨sql, []⟩) server sent = (.error e, sent ++ [.ofText sql]) := by
        rw [discard_effect, answered]
        rfl
      exact bind_error stopped
    | ok answer =>
      have passed : discard (effect ⟨sql, []⟩) server sent = (.ok (), sent ++ [.ofText sql]) := by
        rw [discard_effect, answered]
        rfl
      have next : effects ((sql :: texts).map fun sql => ⟨sql, []⟩) server sent =
          effects (texts.map fun sql => ⟨sql, []⟩) server (sent ++ [.ofText sql]) := bind_ok passed
      rcases ih (sent ++ [.ofText sql]) with ⟨all, ran⟩ | ⟨accepted, refused, rest, e, same, before, failed, ran⟩
      · exact .inl ⟨⟨⟨answer, answered⟩, all⟩, by rw [next, ran]; simp⟩
      · refine .inr ⟨sql :: accepted, refused, rest, e, by rw [same]; rfl, ⟨⟨answer, answered⟩, before⟩, ?_, ?_⟩
        · simpa using failed
        · rw [next, ran]
          simp

namespace Appends

theorem of (result : Except Error α) : (Session.of result).Appends := fun _ sent => ⟨[], (List.append_nil sent).symm⟩

theorem rows (s : Statement) : (Session.rows s).Appends := fun _ _ => ⟨_, rfl⟩

theorem effects (texts : List String) : (Session.effects (texts.map fun sql => ⟨sql, []⟩)).Appends := by
  intro server sent
  rcases effects_cases server sent texts with ⟨-, ran⟩ | ⟨_, _, _, _, -, -, -, ran⟩
  · exact ⟨_, by rw [ran]⟩
  · exact ⟨_, by rw [ran]⟩

theorem bind {f : α → Session β} (first : x.Appends) (later : ∀ a, (f a).Appends) : (x >>= f).Appends := by
  intro server sent
  obtain ⟨own, sends⟩ := first server sent
  rcases ran : x server sent with ⟨result, after⟩
  obtain rfl : after = sent ++ own := by rw [← sends, ran]
  cases result with
  | error e => exact ⟨own, by rw [bind_error ran]⟩
  | ok a =>
    obtain ⟨more, sendsMore⟩ := later a server (sent ++ own)
    exact ⟨own ++ more, by rw [bind_ok ran, sendsMore, List.append_assoc]⟩

theorem attempt (tried : x.Appends) : x.attempt.Appends := tried

end Appends

end Session

namespace Target

theorem Schematic.appends {t : Target} {α : Type} {x : Session α} (schematic : t.Schematic x) : x.Appends := by
  induction schematic with
  | of result => exact .of result
  | run b => exact .bind (.of _) fun texts => .effects texts
  | runText sql => exact .effects [sql]
  | ask question read => exact .bind (.of _) fun text => .bind (.rows _) fun rows => .of _
  | bind _ _ first later => exact .bind first later
  | attempt _ tried => exact .attempt tried

theorem Schematic.withoutForeignKeys {t : Target} {α : Type} {x : Session α} (schematic : t.Schematic x) :
    t.Schematic (t.withoutForeignKeys x) :=
  .bind (.runText _) fun _ => .bind (.attempt schematic) fun result =>
    .bind (.attempt (.runText _)) fun enabled => .bind (.of result) fun a =>
      .bind (.of enabled) fun _ => .of (.ok a)

section

variable {α : Type} {t : Target} {x : Session α} {server : Server} {sent : List Request}

theorem runText_eq (sql : String) (server : Server) (sent : List Request) :
    runText sql server sent = (discard (server.effect sent ⟨sql, []⟩), sent ++ [.ofText sql]) := by
  have alone : runText sql = discard (Session.effect ⟨sql, []⟩) := bind_pure_unit
  rw [alone, Session.discard_effect]
  rfl

theorem withoutForeignKeys_of_refused {e : Error} (refused : server.effect sent t.checksOff.statement = .error e) :
    t.withoutForeignKeys x server sent = (.error e, sent ++ [t.checksOff]) := by
  have stopped : runText t.disableForeignKeys server sent = (discard (.error e), sent ++ [t.checksOff]) :=
    refused ▸ runText_eq t.disableForeignKeys server sent
  exact Session.bind_error stopped

theorem withoutForeignKeys_of_accepted {answer : Bool} {result : Except Error α} {after : List Request}
    (accepted : server.effect sent t.checksOff.statement = .ok answer)
    (ran : x server (sent ++ [t.checksOff]) = (result, after)) :
    t.withoutForeignKeys x server sent =
      (settled result (server.effect after t.checksOn.statement), after ++ [t.checksOn]) := by
  have passed : runText t.disableForeignKeys server sent = (discard (.ok answer), sent ++ [t.checksOff]) :=
    accepted ▸ runText_eq t.disableForeignKeys server sent
  have tried : x.attempt server (sent ++ [t.checksOff]) = (.ok result, after) := by
    rw [Session.attempt, ran]
  have enabled : (runText t.enableForeignKeys).attempt server after =
      (.ok (discard (server.effect after t.checksOn.statement)), after ++ [t.checksOn]) := by
    rw [Session.attempt, runText_eq]
    rfl
  refine (Session.bind_ok passed).trans ((Session.bind_ok tried).trans ((Session.bind_ok enabled).trans ?_))
  cases result with
  | error e => rfl
  | ok a => cases server.effect after t.checksOn.statement <;> rfl

end

end Target

theorem Blueprint.run_cases (t : Target) (b : Blueprint) (server : Server) (sent : List Request) :
    (∀ e, b.statements t = .error e → b.run t server sent = (.error e, sent)) ∧
      ∀ texts, b.statements t = .ok texts →
        b.run t server sent = Session.effects (texts.map fun sql => ⟨sql, []⟩) server sent := by
  refine ⟨fun e failed => Session.bind_error ?_, fun texts compiled => Session.bind_ok ?_⟩
  · rw [Session.of, failed]
  · rw [Session.of, compiled]

namespace Target

/-- A blueprint that does not compile sends nothing, and one that does sends its statements in their order up to the
first that the server refuses. Whatever is made of such operations can be guarded, and is then made of such operations
itself: if the checks cannot be turned off nothing else is sent, and otherwise the session sends what it sends behind
that, and then the checks are turned on. Its own error goes before one in turning them on. -/
theorem schemas_run_in_order (t : Target) (server : Server) (sent : List Request) :
    (∀ b : Blueprint,
      (∀ e, b.statements t = .error e → b.run t server sent = (.error e, sent)) ∧
      ∀ texts, b.statements t = .ok texts →
        (server.Accepts sent texts ∧ b.run t server sent = (.ok (), sent ++ texts.map .ofText)) ∨
        ∃ accepted refused rest e, texts = accepted ++ refused :: rest ∧ server.Accepts sent accepted ∧
          server.effect (sent ++ accepted.map .ofText) ⟨refused, []⟩ = .error e ∧
          b.run t server sent = (.error e, sent ++ (accepted ++ [refused]).map .ofText)) ∧
    ∀ {α : Type} (x : Session α), t.Schematic x →
      t.Schematic (t.withoutForeignKeys x) ∧
      (∀ e, server.effect sent t.checksOff.statement = .error e →
        t.withoutForeignKeys x server sent = (.error e, sent ++ [t.checksOff])) ∧
      ∀ answer, server.effect sent t.checksOff.statement = .ok answer → ∃ result own,
        x server (sent ++ [t.checksOff]) = (result, sent ++ [t.checksOff] ++ own) ∧
        t.withoutForeignKeys x server sent =
          (settled result (server.effect (sent ++ [t.checksOff] ++ own) t.checksOn.statement),
            sent ++ [t.checksOff] ++ own ++ [t.checksOn]) := by
  refine ⟨fun b => ?_, fun x schematic => ⟨schematic.withoutForeignKeys, ?_, ?_⟩⟩
  · obtain ⟨failed, compiled⟩ := b.run_cases t server sent
    refine ⟨failed, fun texts ok => ?_⟩
    rw [compiled texts ok]
    exact Session.effects_cases server sent texts
  · exact fun e refused => withoutForeignKeys_of_refused refused
  · intro answer accepted
    obtain ⟨own, sends⟩ := schematic.appends server (sent ++ [t.checksOff])
    rcases ran : x server (sent ++ [t.checksOff]) with ⟨result, after⟩
    obtain rfl : after = sent ++ [t.checksOff] ++ own := by rw [← sends, ran]
    exact ⟨result, own, rfl, withoutForeignKeys_of_accepted accepted ran⟩

def thrice : Server where
  rows _ _ := .ok []
  effect sent _ := if sent.length = 3 then .error (.connection "in use") else .ok true
  count _ _ := .ok 0
  lastId _ := .ok none

def dropping (table : String) : Blueprint where
  table
  commands := [.drop]

def clearing (t : Target) : Session Unit := do
  (dropping "posts").run t
  t.withoutForeignKeys ((dropping "users").run t)

theorem clearing_schematic (t : Target) : t.Schematic (clearing t) :=
  .bind (.run _) fun _ => .withoutForeignKeys (.run _)

/-- By itself the first table is dropped. In the guarded session the second is not, and the checks are turned on
twice. -/
theorem clearing_guarded :
    (dropping "posts").run { dialect := .mysql } thrice [] = (.ok (), [.ofText "DROP TABLE `posts`"]) ∧
    withoutForeignKeys { dialect := .mysql } (clearing { dialect := .mysql }) thrice [] =
      (.error (.connection "in use"), ["SET FOREIGN_KEY_CHECKS=0", "DROP TABLE `posts`", "SET FOREIGN_KEY_CHECKS=0",
        "DROP TABLE `users`", "SET FOREIGN_KEY_CHECKS=1", "SET FOREIGN_KEY_CHECKS=1"].map .ofText) := by
  constructor
  · have compiled : (dropping "posts").statements { dialect := .mysql } = .ok ["DROP TABLE `posts`"] := rfl
    rcases ((schemas_run_in_order { dialect := .mysql } thrice []).1 (dropping "posts")).2 _ compiled with
      ⟨-, ran⟩ | ⟨accepted, refused, rest, e, same, -, failed, -⟩
    · exact ran
    · cases accepted with
      | nil => cases failed
      | cons sql accepted => simp at same
  · obtain ⟨-, -, accepted⟩ := (schemas_run_in_order { dialect := .mysql } thrice []).2 _ (clearing_schematic _)
    obtain ⟨result, own, ran, guarded⟩ := accepted true rfl
    have inner : clearing { dialect := .mysql } thrice [.ofText "SET FOREIGN_KEY_CHECKS=0"] =
        (.error (.connection "in use"), [.ofText "SET FOREIGN_KEY_CHECKS=0"] ++ ["DROP TABLE `posts`",
          "SET FOREIGN_KEY_CHECKS=0", "DROP TABLE `users`", "SET FOREIGN_KEY_CHECKS=1"].map .ofText) := rfl
    obtain ⟨rfl, same⟩ := Prod.mk.inj (ran.symm.trans inner)
    rw [guarded, List.append_cancel_left same]
    rfl

end Target

end SqlCompiler
