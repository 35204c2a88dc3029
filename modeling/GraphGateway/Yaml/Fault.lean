/-!
# What can be wrong with a YAML text
-/

namespace GraphGateway.Yaml

/-- Why a text is not one YAML document of the wanted shape. -/
inductive Fault where
  | forbiddenCharacter
  | unknownToken
  | missingColon
  | misplaced (what : String)
  | badDirective
  | badAnchor
  | badTag
  | badBlockHeader
  | tabAsIndentation
  | documentMarkInScalar
  | unclosedScalar
  | badEscape
  | unexpectedColon
  | expected (what : String)
  | repeatedDirective
  | incompatibleVersion
  | undefinedTagHandle
  | unknownAnchor
  | severalDocuments
  | notAMapping
  | notAScalar
  | notAnInteger
  | outOfRange
  | notNull
  | repeatedField (name : String)
  deriving DecidableEq, Repr

/-- The wording of a fault. -/
def Fault.message : Fault → String
  | forbiddenCharacter => "control characters are not allowed"
  | unknownToken => "found character that cannot start any token"
  | missingColon => "could not find expected ':'"
  | misplaced what => what ++ " are not allowed in this context"
  | badDirective => "found a malformed directive"
  | badAnchor => "found a malformed anchor or alias"
  | badTag => "found a malformed tag"
  | badBlockHeader => "found a malformed block scalar header"
  | tabAsIndentation => "found a tab character that violates indentation"
  | documentMarkInScalar => "found unexpected document indicator"
  | unclosedScalar => "found unexpected end of stream"
  | badEscape => "found unknown escape character"
  | unexpectedColon => "found unexpected ':'"
  | expected what => "did not find expected " ++ what
  | repeatedDirective => "found duplicate directive"
  | incompatibleVersion => "found incompatible YAML document"
  | undefinedTagHandle => "found undefined tag handle"
  | unknownAnchor => "unknown anchor"
  | severalDocuments => "deserializing from YAML containing more than one document is not supported"
  | notAMapping => "invalid type, expected a mapping"
  | notAScalar => "invalid type, expected a string"
  | notAnInteger => "invalid type, expected an integer"
  | outOfRange => "integer out of range"
  | notNull => "invalid value, expected null"
  | repeatedField name => "duplicate field " ++ name

end GraphGateway.Yaml
