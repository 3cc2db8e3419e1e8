namespace RelayMesh

inductive Expectation where
  | mapping
  | sequence
  | mappingOrSequence
  | text
  | nodeName
  | trackName
  | relayReference
  | count
  | atMostRelays (limit given : Nat)
  | delay
deriving DecidableEq

def Expectation.message : Expectation → String
  | .mapping => "expected a mapping"
  | .sequence => "expected a sequence"
  | .mappingOrSequence => "expected a mapping or a sequence"
  | .text => "expected a string"
  | .nodeName => "expected a node name"
  | .trackName => "expected a track name"
  | .relayReference => "expected a relay name or a 1-based index"
  | .count => "expected a non-negative integer"
  | .atMostRelays limit given => s!"at most {limit} relays are supported, got {given}"
  | .delay => "expected a non-negative delay in milliseconds"

inductive TopologyError where
  | missingField (field : String)
  | invalidField (field : String) (reason : Expectation)
  | unknownNode (field name : String)
  | duplicateNode (name : String)
  | noRelays
  | selfLoop (index : Nat) (name : String)
  | duplicateEdge (a b : String)
  | trackWithoutPublisher (track : String)
deriving DecidableEq

def TopologyError.message : TopologyError → String
  | .missingField field => s!"Missing required field `{field}`"
  | .invalidField field reason => s!"Field `{field}` is invalid: {reason.message}"
  | .unknownNode field name => s!"`{field}` references the unknown relay `{name}`"
  | .duplicateNode name => s!"Node `{name}` is declared more than once"
  | .noRelays => "The topology does not declare any relay"
  | .selfLoop index name => s!"Edge {index} connects relay `{name}` to itself"
  | .duplicateEdge a b => s!"The edge between `{a}` and `{b}` is declared more than once"
  | .trackWithoutPublisher track =>
    s!"Track `{track}` has a last-hop relay but no first-hop relay"

end RelayMesh
