import MarkupTree.Schema.Info

/-!
# Properties of HTML elements

Attribute names of HTML do not depend on letter case; where no name is given here, the attribute
has the lower form of the property.
-/

namespace MarkupTree.Schema.Table

/-- Attribute names by the lower form of their property. -/
def htmlAttributes : List (String × String) :=
  [("acceptcharset", "accept-charset"), ("classname", "class"), ("htmlfor", "for"),
   ("httpequiv", "http-equiv")]

def htmlProperties : List (String × List Trait) :=
  [("abbr", []), ("accept", [.commaSeparated]), ("acceptCharset", [.spaceSeparated]),
   ("accessKey", [.spaceSeparated]), ("action", []), ("allow", []),
   ("allowFullScreen", [.boolean]), ("allowPaymentRequest", [.boolean]),
   ("allowUserMedia", [.boolean]), ("alt", []), ("as", []), ("async", [.boolean]),
   ("autoCapitalize", []), ("autoComplete", [.spaceSeparated]), ("autoFocus", [.boolean]),
   ("autoPlay", [.boolean]), ("blocking", [.spaceSeparated]), ("capture", []), ("charSet", []),
   ("checked", [.boolean]), ("cite", []), ("className", [.spaceSeparated]), ("cols", [.number]),
   ("colSpan", []), ("content", []), ("contentEditable", [.booleanish]), ("controls", [.boolean]),
   ("controlsList", [.spaceSeparated]), ("coords", [.number, .commaSeparated]),
   ("crossOrigin", []), ("data", []), ("dateTime", []), ("decoding", []), ("default", [.boolean]),
   ("defer", [.boolean]), ("dir", []), ("dirName", []), ("disabled", [.boolean]),
   ("download", [.overloadedBoolean]), ("draggable", [.booleanish]), ("encType", []),
   ("enterKeyHint", []), ("fetchPriority", []), ("form", []), ("formAction", []),
   ("formEncType", []), ("formMethod", []), ("formNoValidate", [.boolean]), ("formTarget", []),
   ("headers", [.spaceSeparated]), ("height", [.number]), ("hidden", [.boolean]),
   ("high", [.number]), ("href", []), ("hrefLang", []), ("htmlFor", [.spaceSeparated]),
   ("httpEquiv", [.spaceSeparated]), ("id", []), ("imageSizes", []), ("imageSrcSet", []),
   ("inert", [.boolean]), ("inputMode", []), ("integrity", []), ("is", []), ("isMap", [.boolean]),
   ("itemId", []), ("itemProp", [.spaceSeparated]), ("itemRef", [.spaceSeparated]),
   ("itemScope", [.boolean]), ("itemType", [.spaceSeparated]), ("kind", []), ("label", []),
   ("lang", []), ("language", []), ("list", []), ("loading", []), ("loop", [.boolean]),
   ("low", [.number]), ("manifest", []), ("max", []), ("maxLength", [.number]), ("media", []),
   ("method", []), ("min", []), ("minLength", [.number]), ("multiple", [.boolean]),
   ("muted", [.boolean]), ("name", []), ("nonce", []), ("noModule", [.boolean]),
   ("noValidate", [.boolean]), ("open", [.boolean]), ("optimum", [.number]), ("pattern", []),
   ("ping", [.spaceSeparated]), ("placeholder", []), ("playsInline", [.boolean]), ("popover", []),
   ("popoverTarget", []), ("popoverTargetAction", []), ("poster", []), ("preload", []),
   ("readOnly", [.boolean]), ("referrerPolicy", []), ("rel", [.spaceSeparated]),
   ("required", [.boolean]), ("reversed", [.boolean]), ("rows", [.number]),
   ("rowSpan", [.number]), ("sandbox", [.spaceSeparated]), ("scope", []), ("scoped", [.boolean]),
   ("seamless", [.boolean]), ("selected", [.boolean]), ("shadowRootClonable", [.boolean]),
   ("shadowRootDelegatesFocus", [.boolean]), ("shadowRootMode", []), ("shape", []),
   ("size", [.number]), ("sizes", []), ("slot", []), ("span", [.number]),
   ("spellCheck", [.booleanish]), ("src", []), ("srcDoc", []), ("srcLang", []), ("srcSet", []),
   ("start", [.number]), ("step", []), ("style", []), ("tabIndex", [.number]), ("target", []),
   ("title", []), ("translate", []), ("type", []), ("typeMustMatch", [.boolean]), ("useMap", []),
   ("value", [.booleanish]), ("width", [.number]), ("wrap", []), ("writingSuggestions", []),
   ("align", []), ("aLink", []), ("archive", [.spaceSeparated]), ("axis", []), ("background", []),
   ("bgColor", []), ("border", [.number]), ("borderColor", []), ("bottomMargin", [.number]),
   ("cellPadding", []), ("cellSpacing", []), ("char", []), ("charOff", []), ("classId", []),
   ("clear", []), ("code", []), ("codeBase", []), ("codeType", []), ("color", []),
   ("compact", [.boolean]), ("declare", [.boolean]), ("event", []), ("face", []), ("frame", []),
   ("frameBorder", []), ("hSpace", [.number]), ("leftMargin", [.number]), ("link", []),
   ("longDesc", []), ("lowSrc", []), ("marginHeight", [.number]), ("marginWidth", [.number]),
   ("noResize", [.boolean]), ("noHref", [.boolean]), ("noShade", [.boolean]),
   ("noWrap", [.boolean]), ("object", []), ("profile", []), ("prompt", []), ("rev", []),
   ("rightMargin", [.number]), ("rules", []), ("scheme", []), ("scrolling", [.booleanish]),
   ("standby", []), ("summary", []), ("text", []), ("topMargin", [.number]), ("valueType", []),
   ("version", []), ("vAlign", []), ("vLink", []), ("vSpace", [.number]),
   ("allowTransparency", []), ("autoCorrect", []), ("autoSave", []),
   ("disablePictureInPicture", [.boolean]), ("disableRemotePlayback", [.boolean]), ("prefix", []),
   ("property", []), ("results", [.number]), ("security", []), ("unselectable", [])]

end MarkupTree.Schema.Table
