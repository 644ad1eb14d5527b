import ReviewGraph.Foundation.Regex

/-!
# Redaction

`redaction.py`: seven patterns for secrets, applied one after the other, each to the text that the
previous ones left.  A match is replaced by the token, in three categories behind the part of the
match that names the secret.
-/

namespace ReviewGraph

open Regex Pattern Unicode

/-- `REDACTION_TOKEN`. -/
def redactionToken : Text := "[REDACTED]"

/-- The categories of secrets, in the order of `_PATTERNS`. -/
inductive RedactionCategory
  | privateKey
  | authorizationHeader
  | bearerToken
  | githubToken
  | apiKey
  | envAssignment
  | standaloneApiKey
  deriving DecidableEq, Repr

namespace RedactionCategory

/-- The name of a category. -/
def value : RedactionCategory → Text
  | privateKey => "private_key"
  | authorizationHeader => "authorization_header"
  | bearerToken => "bearer_token"
  | githubToken => "github_token"
  | apiKey => "api_key"
  | envAssignment => "env_assignment"
  | standaloneApiKey => "standalone_api_key"

/-- All categories, in the order in which their patterns are applied. -/
def all : List RedactionCategory :=
  [privateKey, authorizationHeader, bearerToken, githubToken, apiKey, envAssignment,
    standaloneApiKey]

end RedactionCategory

/-! ## The patterns -/

/-- The characters of a token in a header, in any case. -/
def isTokenChar (c : Char) : Bool :=
  isAsciiAlphanumeric (ignoreCase c) || c ∈ ("._~+/=-" : Text)

/-- The characters of an environment variable name, in any case. -/
def isEnvNameChar (c : Char) : Bool := isLower (ignoreCase c) || isDigit c || c == '_'

/-- A quotation mark. -/
def isQuote (c : Char) : Bool := c == '"' || c == '\''

/-- The pattern of a category. -/
def RedactionCategory.rule : RedactionCategory → Rule
  | .privateKey =>
    { kept := .empty
      secret := literal "-----BEGIN " ++ (many 0 (fun c => isUpper c || c == ' ') ++
        (literal "PRIVATE KEY-----" ++ (Pattern.lazy (fun _ => true) ++ (literal "-----END " ++
          (many 0 (fun c => isUpper c || c == ' ') ++ literal "PRIVATE KEY-----"))))) }
  | .authorizationHeader =>
    { kept := lineStart ++ (many 0 isSpace ++ (literalI "authorization" ++
        (many 0 isSpace ++ (literal ":" ++ many 0 isSpace))))
      secret := choice (literalI "bearer") [literalI "basic"] ++ (many 1 isSpace ++
        many 1 (fun c => !isSpace c)) }
  | .bearerToken =>
    { kept := .empty
      secret := wordBoundary ++ (literalI "bearer" ++ (many 1 isSpace ++
        many 12 isTokenChar)) }
  | .githubToken =>
    { kept := .empty
      secret := wordBoundary ++ (choice
        (literal "gh" ++ (one (fun c => c ∈ ("psuor" : Text)) ++ (literal "_" ++
          many 20 (fun c => isAsciiAlphanumeric c || c == '_'))))
        [literal "github_pat_" ++ many 20 (fun c => isAsciiAlphanumeric c || c == '_')] ++
          wordBoundary) }
  | .apiKey =>
    { kept := opt isQuote ++ (wordBoundary ++ (choice
        (literalI "api" ++ (opt (fun c => c == '_' || c == '-') ++ literalI "key"))
        [literalI "token", literalI "secret"] ++ (opt isQuote ++ (many 0 isSpace ++
          (one (fun c => c == ':' || c == '=') ++ many 0 isSpace)))))
      secret := opt isQuote ++ (many 12 isTokenChar ++ opt isQuote) }
  | .envAssignment =>
    { kept := lineStart ++ (many 0 isSpace ++ (opt (fun c => c == '+' || c == '-' || c == ' ')
        ++ (many 0 isSpace ++ (one (fun c => isLower (ignoreCase c)) ++
          (many 0 isEnvNameChar ++ (choice (literalI "key")
            [literalI "token", literalI "secret", literalI "password"] ++
              (many 0 isSpace ++ (literal "=" ++ many 0 isSpace))))))))
      secret := many 1 (fun c => c != '\n') ++ lineEnd }
  | .standaloneApiKey =>
    { kept := .empty
      secret := wordBoundary ++ (choice
        (choice (literal "sk") [literal "rk", literal "pk"] ++ (literal "_" ++
          (choice (literal "live") [literal "test", literal "prod"] ++ (literal "_" ++
            many 12 (fun c => isAsciiAlphanumeric c || c == '_' || c == '-')))))
        [choice (literal "sk") [literal "rk", literal "pk",
            literal "xox" ++ one (fun c => c ∈ ("baprs" : Text))] ++ (literal "-" ++
          many 12 (fun c => isAsciiAlphanumeric c || c == '_' || c == '-'))] ++ wordBoundary) }

/-! ## `redact_text` -/

/-- `RedactionResult`. -/
structure RedactionResult where
  text : Text
  replacementCount : ℕ
  categories : List RedactionCategory
  deriving DecidableEq

/-- `RedactionResult.redacted`. -/
def RedactionResult.redacted (r : RedactionResult) : Bool := r.replacementCount > 0

/-- One pass of `redact_text`: replace the matches of one category. -/
def redactCategory (r : RedactionResult) (category : RedactionCategory) : RedactionResult :=
  let (text, count) := category.rule.subn redactionToken r.text
  { text
    replacementCount := r.replacementCount + count
    categories := if count = 0 then r.categories else r.categories ++ [category] }

/-- `redact_text`. -/
def redactText (text : Text) : RedactionResult :=
  RedactionCategory.all.foldl redactCategory ⟨text, 0, []⟩

end ReviewGraph
