import DeviceOnboard.Schema.Basic

/-!
# Schemas of Kubernetes types

The schemas of compute resources and of conditions, with the descriptions that Kubernetes gives
them.
-/
namespace DeviceOnboard.Schema

/-- Paragraphs, with a blank line between them. -/
def paragraphs (ps : List String) : String := "\n\n".intercalate ps

/-- The address of a page. -/
def webAddress (scheme page : String) : String := scheme ++ "://" ++ page

/-- What a quantity is. -/
def quantityText : String :=
  paragraphs
    [("Quantity is a fixed-point representation of a number. It provides convenient " ++
       "marshaling/unmarshaling in JSON and YAML, in addition to String() and AsInt64() " ++
       "accessors."),
     "The serialization format is:",
     "``` <quantity>        ::= <signedNumber><suffix>",
     "\t(Note that <suffix> may be empty, from the \"\" case in <decimalSI>.)",
     ("<digit>           ::= 0 | 1 | ... | 9 <digits>          ::= <digit> | <digit><digits> " ++
       "<number>          ::= <digits> | <digits>.<digits> | <digits>. | .<digits> " ++
       "<sign>            ::= \"+\" | \"-\" <signedNumber>    ::= <number> | <sign><number> " ++
       "<suffix>          ::= <binarySI> | <decimalExponent> | <decimalSI> <binarySI>        " ++
       "::= Ki | Mi | Gi | Ti | Pi | Ei"),
     ("\t(International System of units; See: " ++
       webAddress "http" "physics.nist.gov/cuu/Units/binary.html" ++
       ")"),
     "<decimalSI>       ::= m | \"\" | k | M | G | T | P | E",
     "\t(Note that 1024 = 1Ki but 1000 = 1k; I didn't choose the capitalization.)",
     "<decimalExponent> ::= \"e\" <signedNumber> | \"E\" <signedNumber> ```",
     ("No matter which of the three exponent forms is used, no quantity may represent a " ++
       "number greater than 2^63-1 in magnitude, nor may it have more than 3 decimal places. " ++
       "Numbers larger or more precise will be capped or rounded up. (E.g.: 0.1m will rounded " ++
       "up to 1m.) This may be extended in the future if we require larger or smaller " ++
       "quantities."),
     ("When a Quantity is parsed from a string, it will remember the type of suffix it had, " ++
       "and will use the same type again when it is serialized."),
     ("Before serializing, Quantity will be put in \"canonical form\". This means that " ++
       "Exponent/suffix will be adjusted up or down (with a corresponding increase or decrease " ++
       "in Mantissa) such that:"),
     ("- No precision is lost - No fractional digits will be emitted - The exponent (or " ++
       "suffix) is as large as possible."),
     "The sign will be omitted unless the number is negative.",
     "Examples:",
     "- 1.5 will be serialized as \"1500m\" - 1.5Gi will be serialized as \"1536Mi\"",
     ("Note that the quantity will NEVER be internally represented by a floating point " ++
       "number. That is the whole point of this exercise."),
     ("Non-canonical values will still parse as long as they are well formed, but will be " ++
       "re-emitted in their canonical form. (So always use canonical form, or don't diff.)"),
     ("This format is intended to make it difficult to use these numbers without writing some " ++
       "sort of special handling code in the hopes that that will cause implementors to also " ++
       "use a fixed point implementation.")]

/-- A dictionary of quantities. -/
def quantities : Schema := .dictionary (Schema.string.described quantityText)

def resourceClaim : Schema :=
  (Schema.object
    [("name", Schema.string.described
        ("Name must match the name of one entry in pod.spec.resourceClaims of the Pod where " ++
          "this field is used. It makes that resource available inside a container.")),
      ("request", Schema.string.described
        ("Request is the name chosen for a request in the referenced claim. If empty, " ++
          "everything from the claim is made available, otherwise only the result of this " ++
          "request."))]
    ["name"]).described
    "ResourceClaim references one entry in PodSpec.ResourceClaims."

/-- Where the resources of containers are explained. -/
def resourcesPage : String :=
  webAddress "https" "kubernetes.io/docs/concepts/configuration/manage-resources-containers/"

/-- The compute resources of a container. -/
def resourceRequirements : Schema :=
  .object
    [("claims", (Schema.list resourceClaim).described
        (paragraphs
          [("Claims lists the names of resources, defined in spec.resourceClaims, that are " ++
             "used by this container."),
           ("This is an alpha field and requires enabling the DynamicResourceAllocation " ++
             "feature gate."),
           "This field is immutable. It can only be set for containers."])),
      ("limits", quantities.described
        ("Limits describes the maximum amount of compute resources allowed. More info: " ++
          resourcesPage)),
      ("requests", quantities.described
        ("Requests describes the minimum amount of compute resources required. If Requests is " ++
          "omitted for a container, it defaults to Limits if that is explicitly specified, " ++
          "otherwise to an implementation-defined value. Requests cannot exceed Limits. More " ++
          "info: " ++
          resourcesPage))]
    []

def condition : Schema :=
  (Schema.object
    [("lastTransitionTime", (Schema.formatted "date-time").described
        ("lastTransitionTime is the last time the condition transitioned from one status to " ++
          "another. This should be when the underlying condition changed.  If that is not " ++
          "known, then using the time when the API field changed is acceptable.")),
      ("message", Schema.string.described
        ("message is a human readable message indicating details about the transition. This " ++
          "may be an empty string.")),
      ("observedGeneration", (Schema.integer "int64" none).described
        ("observedGeneration represents the .metadata.generation that the condition was set " ++
          "based upon. For instance, if .metadata.generation is currently 12, but the " ++
          ".status.conditions[x].observedGeneration is 9, the condition is out of date with " ++
          "respect to the current state of the instance.")),
      ("reason", Schema.string.described
        ("reason contains a programmatic identifier indicating the reason for the condition's " ++
          "last transition. Producers of specific condition types may define expected values " ++
          "and meanings for this field, and whether the values are considered a guaranteed " ++
          "API. The value should be a CamelCase string. This field may not be empty.")),
      ("status", Schema.string.described
        "status of the condition, one of True, False, Unknown."),
      ("type", Schema.string.described
        "type of condition in CamelCase or in foo.example.com/CamelCase.")]
    ["lastTransitionTime", "message", "reason", "status", "type"]).described
    "Condition contains details for one aspect of the current state of this API Resource."

end DeviceOnboard.Schema
