import FluentAssert.Node.Array
import FluentAssert.Node.Boolean
import FluentAssert.Node.Number
import FluentAssert.Node.Object
import FluentAssert.Node.Text
import FluentAssert.Node.Value
import FluentAssert.Session

/-! Operations as data. A check reports on its node, a step makes a new node, an entry makes the
first node of a session, and a read or use goes to the environment. Each is a name with its
arguments; `perform` is what it does. -/
namespace FluentAssert

open FluentAssert.Http

inductive NodeKind where
  | value | object | array | text | number | boolean | captures | response
  deriving DecidableEq, Repr

abbrev Held : NodeKind → Type
  | .value => Canonical
  | .object => Fields Canonical
  | .array => List Canonical
  | .text => String
  | .number => Double
  | .boolean => Bool
  | .captures => Captures
  | .response => Response

variable {ω : Type}

namespace ValueNode

inductive Check where
  | isNull | notNull
  | isEqual (expected : Native) | notEqual (expected : Native)
  | inList (values : List Native) | notInList (values : List Native)

def Check.perform (node : ValueNode) : Check → Run ω Unit
  | .isNull => node.isNull
  | .notNull => node.notNull
  | .isEqual expected => node.isEqual expected
  | .notEqual expected => node.notEqual expected
  | .inList values => node.inList values
  | .notInList values => node.notInList values

inductive Step : NodeKind → Type where
  | object : Step .object
  | array : Step .array
  | string : Step .text
  | number : Step .number
  | boolean : Step .boolean

def Step.perform (node : ValueNode) {target : NodeKind} : Step target → Run ω (Node (Held target))
  | .object => node.object
  | .array => node.array
  | .string => node.string
  | .number => node.number
  | .boolean => node.boolean

end ValueNode

namespace ObjectNode

inductive Check where
  | isEmpty | notEmpty
  | containsKey (key : String) | notContainsKey (key : String)
  | containsValue (expected : Native) | notContainsValue (expected : Native)
  | hasValue (key : String) (expected : Native) | notHasValue (key : String) (expected : Native)
  | containsSubset (subset : Native) | notContainsSubset (subset : Native)
  | isEqual (expected : Native) | notEqual (expected : Native)

def Check.perform (node : ObjectNode) : Check → Run ω Unit
  | .isEmpty => node.isEmpty
  | .notEmpty => node.notEmpty
  | .containsKey key => node.containsKey key
  | .notContainsKey key => node.notContainsKey key
  | .containsValue expected => node.containsValue expected
  | .notContainsValue expected => node.notContainsValue expected
  | .hasValue key expected => node.hasValue key expected
  | .notHasValue key expected => node.notHasValue key expected
  | .containsSubset subset => node.containsSubset subset
  | .notContainsSubset subset => node.notContainsSubset subset
  | .isEqual expected => node.isEqual expected
  | .notEqual expected => node.notEqual expected

inductive Step : NodeKind → Type where
  | length : Step .number
  | keys : Step .array
  | values : Step .array
  | field (key : String) : Step .value

def Step.perform (node : ObjectNode) {target : NodeKind} :
    Step target → Run ω (Node (Held target))
  | .length => node.length
  | .keys => node.keys
  | .values => node.values
  | .field key => node.field key

end ObjectNode

namespace ArrayNode

inductive Check where
  | isEmpty | notEmpty
  | isEqual (expected : Native) | notEqual (expected : Native)
  | isEqualUnordered (expected : List Native)
  | containsAll (values : List Native) | notContainsAll (values : List Native)
  | containsAny (values : List Native) | notContainsAny (values : List Native)
  | containsOnly (values : List Native)
  | hasValue (index : Nat) (expected : Native) | notHasValue (index : Nat) (expected : Native)

def Check.perform (node : ArrayNode) : Check → Run ω Unit
  | .isEmpty => node.isEmpty
  | .notEmpty => node.notEmpty
  | .isEqual expected => node.isEqual expected
  | .notEqual expected => node.notEqual expected
  | .isEqualUnordered expected => node.isEqualUnordered expected
  | .containsAll values => node.containsAll values
  | .notContainsAll values => node.notContainsAll values
  | .containsAny values => node.containsAny values
  | .notContainsAny values => node.notContainsAny values
  | .containsOnly values => node.containsOnly values
  | .hasValue index expected => node.hasValue index expected
  | .notHasValue index expected => node.notHasValue index expected

inductive Step : NodeKind → Type where
  | length : Step .number
  | element (index : Nat) : Step .value
  | first : Step .value
  | last : Step .value

def Step.perform (node : ArrayNode) {target : NodeKind} : Step target → Run ω (Node (Held target))
  | .length => node.length
  | .element index => node.element index
  | .first => node.first
  | .last => node.last

end ArrayNode

namespace TextNode

inductive Check where
  | notMatch (pattern : String)
  | isEmpty | notEmpty | isAscii
  | isEqual (expected : String) | notEqual (expected : String)
  | isEqualFold (expected : String) | notEqualFold (expected : String)
  | contains (part : String) | notContains (part : String) | containsFold (part : String)
  | hasPrefix (start : String) | notHasPrefix (start : String)
  | hasSuffix (ending : String) | notHasSuffix (ending : String)
  | inList (values : List String)

def Check.perform (node : TextNode) : Check → Run ω Unit
  | .notMatch pattern => node.notMatch pattern
  | .isEmpty => node.isEmpty
  | .notEmpty => node.notEmpty
  | .isAscii => node.isAscii
  | .isEqual expected => node.isEqual expected
  | .notEqual expected => node.notEqual expected
  | .isEqualFold expected => node.isEqualFold expected
  | .notEqualFold expected => node.notEqualFold expected
  | .contains part => node.contains part
  | .notContains part => node.notContains part
  | .containsFold part => node.containsFold part
  | .hasPrefix start => node.hasPrefix start
  | .notHasPrefix start => node.notHasPrefix start
  | .hasSuffix ending => node.hasSuffix ending
  | .notHasSuffix ending => node.notHasSuffix ending
  | .inList values => node.inList values

inductive Step : NodeKind → Type where
  | length : Step .number
  | asNumber : Step .number
  | asBoolean : Step .boolean
  | reMatch (pattern : String) : Step .captures

def Step.perform (node : TextNode) {target : NodeKind} : Step target → Run ω (Node (Held target))
  | .length => node.length
  | .asNumber => node.asNumber
  | .asBoolean => node.asBoolean
  | .reMatch pattern => node.reMatch pattern

end TextNode

namespace NumberNode

inductive Check where
  | isEqual (expected : Native) | notEqual (expected : Native)
  | greater (expected : Native) | atLeast (expected : Native)
  | less (expected : Native) | atMost (expected : Native)
  | inDelta (expected : Native) (delta : Double) | notInDelta (expected : Native) (delta : Double)
  | inRange (low high : Native) | notInRange (low high : Native)
  | inList (values : List Native)
  | isInteger | isFinite

def Check.perform (node : NumberNode) : Check → Run ω Unit
  | .isEqual expected => node.isEqual expected
  | .notEqual expected => node.notEqual expected
  | .greater expected => node.greater expected
  | .atLeast expected => node.atLeast expected
  | .less expected => node.less expected
  | .atMost expected => node.atMost expected
  | .inDelta expected delta => node.inDelta expected delta
  | .notInDelta expected delta => node.notInDelta expected delta
  | .inRange low high => node.inRange low high
  | .notInRange low high => node.notInRange low high
  | .inList values => node.inList values
  | .isInteger => node.isInteger
  | .isFinite => node.isFinite

end NumberNode

namespace BooleanNode

inductive Check where
  | isTrue | isFalse
  | isEqual (expected : Bool) | notEqual (expected : Bool)

def Check.perform (node : BooleanNode) : Check → Run ω Unit
  | .isTrue => node.isTrue
  | .isFalse => node.isFalse
  | .isEqual expected => node.isEqual expected
  | .notEqual expected => node.notEqual expected

end BooleanNode

namespace MatchNode

inductive Check where
  | isEmpty | notEmpty
  | values (expected : List String) | notValues (expected : List String)

def Check.perform (node : MatchNode) : Check → Run ω Unit
  | .isEmpty => node.isEmpty
  | .notEmpty => node.notEmpty
  | .values expected => node.values expected
  | .notValues expected => node.notValues expected

inductive Step : NodeKind → Type where
  | length : Step .number
  | index (place : Nat) : Step .text
  | name (group : String) : Step .text

def Step.perform (node : MatchNode) {target : NodeKind} : Step target → Run ω (Node (Held target))
  | .length => node.length
  | .index place => node.index place
  | .name group => node.name group

end MatchNode

namespace ResponseNode

inductive Check where
  | status (code : Nat) | statusRange (range : StatusRange)
  | hasContentType (media : String) (charset : Option String)
  | noContent

def Check.perform (node : ResponseNode) : Check → Run ω Unit
  | .status code => node.status code
  | .statusRange range => node.statusRange range
  | .hasContentType media charset => node.hasContentType media charset
  | .noContent => node.noContent

inductive Step : NodeKind → Type where
  | headers : Step .object
  | header (name : String) : Step .text
  | body : Step .text
  | text : Step .text
  | json : Step .value

def Step.perform (node : ResponseNode) {target : NodeKind} :
    Step target → Run ω (Node (Held target))
  | .headers => node.headers
  | .header name => node.header name
  | .body => node.body
  | .text => node.text
  | .json => node.json

end ResponseNode

def Check : NodeKind → Type
  | .value => ValueNode.Check
  | .object => ObjectNode.Check
  | .array => ArrayNode.Check
  | .text => TextNode.Check
  | .number => NumberNode.Check
  | .boolean => BooleanNode.Check
  | .captures => MatchNode.Check
  | .response => ResponseNode.Check

def Check.perform : {kind : NodeKind} → Check kind → Node (Held kind) → Run ω Unit
  | .value, check, node => ValueNode.Check.perform node check
  | .object, check, node => ObjectNode.Check.perform node check
  | .array, check, node => ArrayNode.Check.perform node check
  | .text, check, node => TextNode.Check.perform node check
  | .number, check, node => NumberNode.Check.perform node check
  | .boolean, check, node => BooleanNode.Check.perform node check
  | .captures, check, node => MatchNode.Check.perform node check
  | .response, check, node => ResponseNode.Check.perform node check

/-- Steps from the nodes of a kind to those of another. Numbers and booleans lead nowhere. -/
def Step : NodeKind → NodeKind → Type
  | .value => ValueNode.Step
  | .object => ObjectNode.Step
  | .array => ArrayNode.Step
  | .text => TextNode.Step
  | .number => fun _ => Empty
  | .boolean => fun _ => Empty
  | .captures => MatchNode.Step
  | .response => ResponseNode.Step

def Step.perform {target : NodeKind} :
    {kind : NodeKind} → Step kind target → Node (Held kind) → Run ω (Node (Held target))
  | .value, step, node => ValueNode.Step.perform node step
  | .object, step, node => ObjectNode.Step.perform node step
  | .array, step, node => ArrayNode.Step.perform node step
  | .text, step, node => TextNode.Step.perform node step
  | .number, step, _ => nomatch step
  | .boolean, step, _ => nomatch step
  | .captures, step, node => MatchNode.Step.perform node step
  | .response, step, node => ResponseNode.Step.perform node step

namespace Session

inductive Entry : NodeKind → Type where
  | value (input : Native) : Entry .value
  | object (input : Native) : Entry .object
  | array (input : Native) : Entry .array
  | string (input : String) : Entry .text
  | number (input : Double) : Entry .number
  | boolean (input : Bool) : Entry .boolean

def Entry.perform (session : Session ω) {kind : NodeKind} : Entry kind → Run ω (Node (Held kind))
  | .value input => session.value input
  | .object input => session.object input
  | .array input => session.array input
  | .string input => session.string input
  | .number input => session.number input
  | .boolean input => session.boolean input

end Session

inductive Use : Type → Type where
  | put (key : String) (value : Stored) : Use Unit
  | has (key : String) : Use Bool
  | delete (key : String) : Use Bool
  | clear : Use Unit
  | keys : Use (List String)

def Use.perform (store : StoreId) {α : Type} : Use α → Run ω α
  | .put key value => store.put key value
  | .has key => store.has key
  | .delete key => store.delete key
  | .clear => store.clear
  | .keys => store.keys

def Use.through (handle : Handle) {α : Type} : Use α → Run ω α
  | .put key value => handle.put key value
  | .has key => handle.has key
  | .delete key => handle.delete key
  | .clear => handle.clear
  | .keys => handle.keys

inductive Read : Type → Type where
  | glob (pattern : String) : Read (List String)
  | get (type : StoredType) (key : String) : Read (Option Stored)
  | text (key : String) : Read String
  | integer (key : String) : Read Int
  | number (key : String) : Read Double
  | bool (key : String) : Read Bool
  | bytes (key : String) : Read Text.Bytes
  | duration (key : String) : Read Duration

def Read.perform (handle : Handle) {α : Type} : Read α → Run ω α
  | .glob pattern => handle.glob pattern
  | .get type key => handle.get type key
  | .text key => handle.getText key
  | .integer key => handle.getInteger key
  | .number key => handle.getNumber key
  | .bool key => handle.getBool key
  | .bytes key => handle.getBytes key
  | .duration key => handle.getDuration key

end FluentAssert
