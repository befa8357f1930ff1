import FluentAssert.Chain
import FluentAssert.Node.Response

/-! Configurations: the collaborators of a session. A configuration that could report nothing, or
whose requests could never end in time, is refused. -/
namespace FluentAssert

open FluentAssert.Http

/-- What comes back for a request, and how long it takes. -/
structure Reply where
  delay : Duration
  result : Except TransportError Response

structure Client where
  reply : Request → Reply

inductive ConfigError where
  | missingReporter | zeroTimeout
  deriving DecidableEq, Repr

def ConfigError.message : ConfigError → String
  | missingReporter => "either a reporter or an assertion handler must be configured"
  | zeroTimeout => "request timeout must be greater than zero"

structure Config (ω : Type) where
  testName : Option String := none
  reporter : Option Sink := none
  formatter : Option Formatter := none
  logger : Option Sink := none
  /-- Takes the place of reporter, formatter and logger. -/
  handler : Option Handler := none
  /-- A store to share; without one a session gets a store of its own. -/
  environment : Option StoreId := none
  client : Option Client := none
  requestTimeout : Option Duration := none
  /-- Changes to every request, in order. -/
  builders : List (Request → Request) := []
  /-- Checks of every response, in order. -/
  matchers : List (ResponseNode → Run ω Unit) := []

namespace Config

variable {ω : Type}

/-- The handler that receives outcomes. -/
def handlerOf (config : Config ω) : Except ConfigError Handler :=
  if config.requestTimeout = some .zero then .error .zeroTimeout
  else match config.handler, config.reporter with
    | some handler, _ => .ok handler
    | none, some reporter =>
      .ok (.pipeline (config.formatter.getD (.builtIn {})) reporter config.logger)
    | none, none => .error .missingReporter

def storeOf (config : Config ω) : Run ω StoreId :=
  match config.environment with
  | some store => return store
  | none => Run.newStore

def root (config : Config ω) : Run ω (Except ConfigError ChainId) :=
  match config.handlerOf with
  | .error e => return .error e
  | .ok handler => do
    let store ← config.storeOf
    let handler ← Run.newHandler handler
    return .ok (← Run.newChain ⟨config.testName, [], false, handler, store⟩)

def describe (config : Config ω) : Run ω String := do
  let store ← match config.environment with
    | some store => do pure (some (← store.contents))
    | none => pure none
  return describeRecord "Config"
    [("test_name", describeOption Text.quoted config.testName),
     ("reporter", toString config.reporter.isSome),
     ("formatter", toString config.formatter.isSome),
     ("logger", toString config.logger.isSome),
     ("assertion_handler", toString config.handler.isSome),
     ("environment", describeOption Store.describe store),
     ("client", toString config.client.isSome),
     ("request_timeout", describeOption Duration.text config.requestTimeout),
     ("builders", toString config.builders.length),
     ("matchers", toString config.matchers.length)]

end Config
end FluentAssert
