import DriverKit.Failure

/-!
# Log

What a build step says while it works. The entries are collected beside the outcome, and the
outcome never depends on them: they are kept when a step fails, and nothing reads them back.
-/

namespace DriverKit

namespace Log

/-- How much an entry matters. -/
inductive Level where
  | debug
  | info
  | warning
  | error
deriving DecidableEq, Repr

def Level.rank : Level → Nat
  | .debug => 10
  | .info => 20
  | .warning => 30
  | .error => 40

def Level.name : Level → String
  | .debug => "DEBUG"
  | .info => "INFO"
  | .warning => "WARNING"
  | .error => "ERROR"

/-- The part of the build step that speaks. -/
inductive Topic where
  | files
  | registry
  | locator
  | options
  | resolver
  | cache
  | directives
  | generator
  | build
  | commandLine
deriving DecidableEq, Repr

def Topic.name : Topic → String
  | .files => "wdkconfig.core.filesystem"
  | .registry => "wdkconfig.kit.registry"
  | .locator => "wdkconfig.kit.locator"
  | .options => "wdkconfig.config.parser"
  | .resolver => "wdkconfig.config.resolver"
  | .cache => "wdkconfig.config.cache"
  | .directives => "wdkconfig.emit.directives"
  | .generator => "wdkconfig.bindings.generator"
  | .build => "wdkconfig.build"
  | .commandLine => "wdkconfig.cli.parser"

/-- One thing that was said. -/
structure Entry where
  level : Level
  topic : Topic
  message : String
deriving DecidableEq, Repr

def Entry.isWarning (entry : Entry) : Bool :=
  Level.warning.rank ≤ entry.level.rank

end Log

/-- An outcome together with what was said on the way to it. -/
structure Traced (α : Type) where
  outcome : Except Failure α
  log : List Log.Entry

namespace Traced

def done {α : Type} (value : α) : Traced α := ⟨.ok value, []⟩

def fail {α : Type} (failure : Failure) : Traced α := ⟨.error failure, []⟩

/-- An outcome, with nothing said. -/
def silent {α : Type} (outcome : Except Failure α) : Traced α := ⟨outcome, []⟩

def say (level : Log.Level) (topic : Log.Topic) (message : String) : Traced Unit :=
  ⟨.ok (), [⟨level, topic, message⟩]⟩

/-- Goes on with the value of an outcome, if it has one. -/
def andThen {α β : Type} (first : Traced α) (next : α → Traced β) : Traced β :=
  match first.outcome with
  | .error failure => ⟨.error failure, first.log⟩
  | .ok value => ⟨(next value).outcome, first.log ++ (next value).log⟩

instance : Monad Traced where
  pure := done
  bind := andThen

instance : MonadLift (Except Failure) Traced := ⟨silent⟩

/-- What a host answers, with nothing said. -/
def answered {α : Type} (answer : Except HostFault α) : Traced α := ⟨answer.mapError .host, []⟩

instance : MonadLift (Except HostFault) Traced := ⟨answered⟩

end Traced

end DriverKit
