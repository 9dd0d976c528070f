import MarkupTree.Schema.Info

/-!
# Properties of SVG elements

Attribute names of SVG depend on letter case; where no name is given here, the attribute is called
like the property.
-/

namespace MarkupTree.Schema.Table

/-- Attribute names by their property. -/
def svgAttributes : List (String × String) :=
  [("accentHeight", "accent-height"), ("alignmentBaseline", "alignment-baseline"),
   ("arabicForm", "arabic-form"), ("baselineShift", "baseline-shift"),
   ("capHeight", "cap-height"), ("className", "class"), ("clipPath", "clip-path"),
   ("clipRule", "clip-rule"), ("colorInterpolation", "color-interpolation"),
   ("colorInterpolationFilters", "color-interpolation-filters"),
   ("colorProfile", "color-profile"), ("colorRendering", "color-rendering"),
   ("crossOrigin", "crossorigin"), ("dataType", "datatype"),
   ("dominantBaseline", "dominant-baseline"), ("enableBackground", "enable-background"),
   ("fillOpacity", "fill-opacity"), ("fillRule", "fill-rule"), ("floodColor", "flood-color"),
   ("floodOpacity", "flood-opacity"), ("fontFamily", "font-family"), ("fontSize", "font-size"),
   ("fontSizeAdjust", "font-size-adjust"), ("fontStretch", "font-stretch"),
   ("fontStyle", "font-style"), ("fontVariant", "font-variant"), ("fontWeight", "font-weight"),
   ("glyphName", "glyph-name"), ("glyphOrientationHorizontal", "glyph-orientation-horizontal"),
   ("glyphOrientationVertical", "glyph-orientation-vertical"), ("hrefLang", "hreflang"),
   ("horizAdvX", "horiz-adv-x"), ("horizOriginX", "horiz-origin-x"),
   ("horizOriginY", "horiz-origin-y"), ("imageRendering", "image-rendering"),
   ("letterSpacing", "letter-spacing"), ("lightingColor", "lighting-color"),
   ("markerEnd", "marker-end"), ("markerMid", "marker-mid"), ("markerStart", "marker-start"),
   ("navDown", "nav-down"), ("navDownLeft", "nav-down-left"), ("navDownRight", "nav-down-right"),
   ("navLeft", "nav-left"), ("navNext", "nav-next"), ("navPrev", "nav-prev"),
   ("navRight", "nav-right"), ("navUp", "nav-up"), ("navUpLeft", "nav-up-left"),
   ("navUpRight", "nav-up-right"), ("overlinePosition", "overline-position"),
   ("overlineThickness", "overline-thickness"), ("paintOrder", "paint-order"),
   ("panose1", "panose-1"), ("playbackOrder", "playbackorder"),
   ("pointerEvents", "pointer-events"), ("referrerPolicy", "referrerpolicy"),
   ("renderingIntent", "rendering-intent"), ("shapeRendering", "shape-rendering"),
   ("stopColor", "stop-color"), ("stopOpacity", "stop-opacity"),
   ("strikethroughPosition", "strikethrough-position"),
   ("strikethroughThickness", "strikethrough-thickness"), ("strokeDashArray", "stroke-dasharray"),
   ("strokeDashOffset", "stroke-dashoffset"), ("strokeLineCap", "stroke-linecap"),
   ("strokeLineJoin", "stroke-linejoin"), ("strokeMiterLimit", "stroke-miterlimit"),
   ("strokeOpacity", "stroke-opacity"), ("strokeWidth", "stroke-width"), ("tabIndex", "tabindex"),
   ("textAnchor", "text-anchor"), ("textDecoration", "text-decoration"),
   ("textRendering", "text-rendering"), ("timelineBegin", "timelinebegin"),
   ("transformOrigin", "transform-origin"), ("typeOf", "typeof"),
   ("underlinePosition", "underline-position"), ("underlineThickness", "underline-thickness"),
   ("unicodeBidi", "unicode-bidi"), ("unicodeRange", "unicode-range"),
   ("unitsPerEm", "units-per-em"), ("vAlphabetic", "v-alphabetic"), ("vHanging", "v-hanging"),
   ("vIdeographic", "v-ideographic"), ("vMathematical", "v-mathematical"),
   ("vectorEffect", "vector-effect"), ("vertAdvY", "vert-adv-y"),
   ("vertOriginX", "vert-origin-x"), ("vertOriginY", "vert-origin-y"),
   ("wordSpacing", "word-spacing"), ("writingMode", "writing-mode"), ("xHeight", "x-height")]

def svgProperties : List (String × List Trait) :=
  [("about", [.commaOrSpaceSeparated]), ("accentHeight", [.number]), ("accumulate", []),
   ("additive", []), ("alignmentBaseline", []), ("alphabetic", [.number]),
   ("amplitude", [.number]), ("arabicForm", []), ("ascent", [.number]), ("attributeName", []),
   ("attributeType", []), ("azimuth", [.number]), ("bandwidth", []), ("baselineShift", []),
   ("baseFrequency", []), ("baseProfile", []), ("bbox", []), ("begin", []), ("bias", [.number]),
   ("by", []), ("calcMode", []), ("capHeight", [.number]), ("className", [.spaceSeparated]),
   ("clip", []), ("clipPath", []), ("clipPathUnits", []), ("clipRule", []), ("color", []),
   ("colorInterpolation", []), ("colorInterpolationFilters", []), ("colorProfile", []),
   ("colorRendering", []), ("content", []), ("contentScriptType", []), ("contentStyleType", []),
   ("crossOrigin", []), ("cursor", []), ("cx", []), ("cy", []), ("d", []), ("dataType", []),
   ("defaultAction", []), ("descent", [.number]), ("diffuseConstant", [.number]),
   ("direction", []), ("display", []), ("dur", []), ("divisor", [.number]),
   ("dominantBaseline", []), ("download", [.boolean]), ("dx", []), ("dy", []), ("edgeMode", []),
   ("editable", []), ("elevation", [.number]), ("enableBackground", []), ("end", []),
   ("event", []), ("exponent", [.number]), ("externalResourcesRequired", []), ("fill", []),
   ("fillOpacity", [.number]), ("fillRule", []), ("filter", []), ("filterRes", []),
   ("filterUnits", []), ("floodColor", []), ("floodOpacity", []), ("focusable", []),
   ("focusHighlight", []), ("fontFamily", []), ("fontSize", []), ("fontSizeAdjust", []),
   ("fontStretch", []), ("fontStyle", []), ("fontVariant", []), ("fontWeight", []),
   ("format", []), ("fr", []), ("from", []), ("fx", []), ("fy", []), ("g1", [.commaSeparated]),
   ("g2", [.commaSeparated]), ("glyphName", [.commaSeparated]),
   ("glyphOrientationHorizontal", []), ("glyphOrientationVertical", []), ("glyphRef", []),
   ("gradientTransform", []), ("gradientUnits", []), ("handler", []), ("hanging", [.number]),
   ("hatchContentUnits", []), ("hatchUnits", []), ("height", []), ("href", []), ("hrefLang", []),
   ("horizAdvX", [.number]), ("horizOriginX", [.number]), ("horizOriginY", [.number]), ("id", []),
   ("ideographic", [.number]), ("imageRendering", []), ("initialVisibility", []), ("in", []),
   ("in2", []), ("intercept", [.number]), ("k", [.number]), ("k1", [.number]), ("k2", [.number]),
   ("k3", [.number]), ("k4", [.number]), ("kernelMatrix", [.commaOrSpaceSeparated]),
   ("kernelUnitLength", []), ("keyPoints", []), ("keySplines", []), ("keyTimes", []),
   ("kerning", []), ("lang", []), ("lengthAdjust", []), ("letterSpacing", []),
   ("lightingColor", []), ("limitingConeAngle", [.number]), ("local", []), ("markerEnd", []),
   ("markerMid", []), ("markerStart", []), ("markerHeight", []), ("markerUnits", []),
   ("markerWidth", []), ("mask", []), ("maskContentUnits", []), ("maskUnits", []),
   ("mathematical", []), ("max", []), ("media", []), ("mediaCharacterEncoding", []),
   ("mediaContentEncodings", []), ("mediaSize", [.number]), ("mediaTime", []), ("method", []),
   ("min", []), ("mode", []), ("name", []), ("navDown", []), ("navDownLeft", []),
   ("navDownRight", []), ("navLeft", []), ("navNext", []), ("navPrev", []), ("navRight", []),
   ("navUp", []), ("navUpLeft", []), ("navUpRight", []), ("numOctaves", []), ("observer", []),
   ("offset", []), ("opacity", []), ("operator", []), ("order", []), ("orient", []),
   ("orientation", []), ("origin", []), ("overflow", []), ("overlay", []),
   ("overlinePosition", [.number]), ("overlineThickness", [.number]), ("paintOrder", []),
   ("panose1", []), ("path", []), ("pathLength", [.number]), ("patternContentUnits", []),
   ("patternTransform", []), ("patternUnits", []), ("phase", []), ("ping", [.spaceSeparated]),
   ("pitch", []), ("playbackOrder", []), ("pointerEvents", []), ("points", []),
   ("pointsAtX", [.number]), ("pointsAtY", [.number]), ("pointsAtZ", [.number]),
   ("preserveAlpha", []), ("preserveAspectRatio", []), ("primitiveUnits", []), ("propagate", []),
   ("property", [.commaOrSpaceSeparated]), ("r", []), ("radius", []), ("referrerPolicy", []),
   ("refX", []), ("refY", []), ("rel", [.commaOrSpaceSeparated]),
   ("rev", [.commaOrSpaceSeparated]), ("renderingIntent", []), ("repeatCount", []),
   ("repeatDur", []), ("requiredExtensions", [.commaOrSpaceSeparated]),
   ("requiredFeatures", [.commaOrSpaceSeparated]), ("requiredFonts", [.commaOrSpaceSeparated]),
   ("requiredFormats", [.commaOrSpaceSeparated]), ("resource", []), ("restart", []),
   ("result", []), ("rotate", []), ("rx", []), ("ry", []), ("scale", []), ("seed", []),
   ("shapeRendering", []), ("side", []), ("slope", []), ("snapshotTime", []),
   ("specularConstant", [.number]), ("specularExponent", [.number]), ("spreadMethod", []),
   ("spacing", []), ("startOffset", []), ("stdDeviation", []), ("stemh", []), ("stemv", []),
   ("stitchTiles", []), ("stopColor", []), ("stopOpacity", []),
   ("strikethroughPosition", [.number]), ("strikethroughThickness", [.number]), ("string", []),
   ("stroke", []), ("strokeDashArray", [.commaOrSpaceSeparated]), ("strokeDashOffset", []),
   ("strokeLineCap", []), ("strokeLineJoin", []), ("strokeMiterLimit", [.number]),
   ("strokeOpacity", [.number]), ("strokeWidth", []), ("style", []), ("surfaceScale", [.number]),
   ("syncBehavior", []), ("syncBehaviorDefault", []), ("syncMaster", []), ("syncTolerance", []),
   ("syncToleranceDefault", []), ("systemLanguage", [.commaOrSpaceSeparated]),
   ("tabIndex", [.number]), ("tableValues", []), ("target", []), ("targetX", [.number]),
   ("targetY", [.number]), ("textAnchor", []), ("textDecoration", []), ("textRendering", []),
   ("textLength", []), ("timelineBegin", []), ("title", []), ("transformBehavior", []),
   ("type", []), ("typeOf", [.commaOrSpaceSeparated]), ("to", []), ("transform", []),
   ("transformOrigin", []), ("u1", []), ("u2", []), ("underlinePosition", [.number]),
   ("underlineThickness", [.number]), ("unicode", []), ("unicodeBidi", []), ("unicodeRange", []),
   ("unitsPerEm", [.number]), ("values", []), ("vAlphabetic", [.number]),
   ("vMathematical", [.number]), ("vectorEffect", []), ("vHanging", [.number]),
   ("vIdeographic", [.number]), ("version", []), ("vertAdvY", [.number]),
   ("vertOriginX", [.number]), ("vertOriginY", [.number]), ("viewBox", []), ("viewTarget", []),
   ("visibility", []), ("width", []), ("widths", []), ("wordSpacing", []), ("writingMode", []),
   ("x", []), ("x1", []), ("x2", []), ("xChannelSelector", []), ("xHeight", [.number]), ("y", []),
   ("y1", []), ("y2", []), ("yChannelSelector", []), ("z", []), ("zoomAndPan", [])]

end MarkupTree.Schema.Table
