import Registrar.Vocabulary

/-! What a run tells as it goes, and results that carry it. -/
namespace Registrar

inductive Level where
  | warn
  | info
  deriving DecidableEq, Repr

def Level.name : Level → String
  | warn => "WARN"
  | info => "INFO"

inductive Event where
  | started
  | usingProfile (profile : Profile)
  | searching (path : String)
  | danglingLink (path : String)
  | found (count : Nat)
  | discovered (file : String)
  | emptySource (file : String)
  | processing (file : String)
  | unnamedTest (marker : String)
  | extracted (file library suite : String) (tests : Nat)
  | saved (file target : String)
  | unchanged (file target : String)
  | completed (sources written kept empty : Nat)
  deriving DecidableEq, Repr

def version : String := "1.0.0"

namespace Event

def level : Event → Level
  | danglingLink _ | emptySource _ | unnamedTest _ => .warn
  | _ => .info

def field (key value : String) : String :=
  " " ++ key ++ "=" ++ value

def message : Event → String
  | started => "htest-gen test registration generator" ++ field "version" ("\"" ++ version ++ "\"")
  | usingProfile profile => "using marker profile" ++ field "profile" ("\"" ++ profile.name ++ "\"")
  | searching path => "searching for test sources" ++ field "path" path
  | danglingLink path => "skipping dangling symlink" ++ field "file" path
  | found count => "found test sources" ++ field "count" (toString count)
  | discovered file => "discovered" ++ field "file" file
  | emptySource file => "skipping empty source" ++ field "file" file
  | processing file => "processing" ++ field "file" file
  | unnamedTest marker => "skipping test marker without a name" ++ field "marker" marker
  | extracted file library suite tests =>
    "extracted test class" ++ field "file" file ++ field "namespace" library
      ++ field "suite" suite ++ field "functions" (toString tests)
  | saved file target => "saved" ++ field "file" file ++ field "target" target
  | unchanged file target => "no changes, skipping" ++ field "file" file ++ field "target" target
  | completed sources written kept empty =>
    "generation complete" ++ field "discovered" (toString sources)
      ++ field "updated" (toString written) ++ field "unchanged" (toString kept)
      ++ field "skipped_empty" (toString empty)

def line (event : Event) : String :=
  event.level.name ++ " " ++ event.message

end Event

/-- A result with the events on the way to it. A failure keeps the events before it. -/
structure Logged (ε α : Type) where
  events : List Event
  result : Except ε α

namespace Logged

variable {ε α β : Type}

def tell (event : Event) : Logged ε Unit := ⟨[event], .ok ()⟩

def tellAll (events : List Event) : Logged ε Unit := ⟨events, .ok ()⟩

def lift (result : Except ε α) : Logged ε α := ⟨[], result⟩

protected def bind (first : Logged ε α) (next : α → Logged ε β) : Logged ε β :=
  match first.result with
  | .error error => ⟨first.events, .error error⟩
  | .ok value => ⟨first.events ++ (next value).events, (next value).result⟩

instance : Monad (Logged ε) where
  pure value := ⟨[], .ok value⟩
  bind := Logged.bind

@[simp]
theorem pure_events (value : α) : (pure value : Logged ε α).events = [] := rfl

@[simp]
theorem pure_result (value : α) : (pure value : Logged ε α).result = .ok value := rfl

@[simp]
theorem tell_bind (event : Event) (next : Unit → Logged ε β) :
    (tell event >>= next) = ⟨event :: (next ()).events, (next ()).result⟩ := rfl

@[simp]
theorem tellAll_bind (events : List Event) (next : Unit → Logged ε β) :
    (tellAll events >>= next) = ⟨events ++ (next ()).events, (next ()).result⟩ := rfl

@[simp]
theorem lift_events (result : Except ε α) : (lift result).events = [] := rfl

@[simp]
theorem lift_result (result : Except ε α) : (lift result).result = result := rfl

theorem bind_result (first : Logged ε α) (next : α → Logged ε β) :
    (first >>= next).result = first.result >>= fun value => (next value).result := by
  cases found : first.result <;> simp [bind, Logged.bind, Except.bind, found]

def forEach (work : α → Logged ε β) : List α → Logged ε (List β)
  | [] => pure []
  | item :: items => do
    let first ← work item
    let rest ← forEach work items
    return first :: rest

end Logged

end Registrar
