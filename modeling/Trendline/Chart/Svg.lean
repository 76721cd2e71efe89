import Trendline.Chart.Drawing

/-!
# Drawings as documents

A drawing in the notation of scalable vector graphics: a white ground, the
captions, the shapes, and the legend below the title.
-/

namespace Trendline.Chart

/-- The name by which readers know the notation. -/
def svgNamespace : String :=
  "http:" ++ "//www.w3.org/2000/svg"

/-- A text with the marks of the notation replaced. -/
def escapeMarkup (s : String) : String :=
  String.join <| s.toList.map fun c =>
    match c with
    | '<' => "&lt;"
    | '>' => "&gt;"
    | '&' => "&amp;"
    | '"' => "&quot;"
    | c => c.toString

/-- A pixel as a pair. -/
def Pixel.text (p : Pixel) : String :=
  toString p.x ++ "," ++ toString p.y

/-- An element without content. -/
def element (tag : String) (attributes : List (String × String)) : String :=
  let shown := attributes.map fun (name, value) => " " ++ name ++ "=\"" ++ escapeMarkup value ++ "\""
  "<" ++ tag ++ String.join shown ++ "/>\n"

/-- A line of text at a pixel. -/
def textElement (x y : Int) (s : String) : String :=
  "<text x=\"" ++ toString x ++ "\" y=\"" ++ toString y ++ "\">" ++ escapeMarkup s ++ "</text>\n"

/-- A shape in its color. -/
def shapeElement (c : Color) : Shape → String
  | .polyline ps => element "polyline"
      [("fill", "none"), ("stroke", c.code), ("points", String.intercalate " " (ps.map Pixel.text))]
  | .circle p r => element "circle"
      [("cx", toString p.x), ("cy", toString p.y), ("r", toString r), ("fill", c.code)]
  | .polygon ps => element "polygon"
      [("fill", c.code), ("points", String.intercalate " " (ps.map Pixel.text))]

/-- Where the captions stand: title, name of the vertical and of the horizontal axis. -/
def captionPlaces (width height : Nat) : List (Int × Int) :=
  [((width / 2 : Nat), 28), (12, (height / 2 : Nat)), ((width / 2 : Nat), (height : Int) - 16)]

/-- The drawing as a document. -/
def Drawing.svg (d : Drawing) : String :=
  let captions := (d.captions.zip (captionPlaces d.width d.height)).map fun (s, x, y) =>
    textElement x y s
  let legend := d.legend.mapIdx fun i s => textElement 84 (56 + 16 * (i : Int)) s
  let shapes := d.shapes.map fun (c, s) => shapeElement c s
  let width := toString d.width
  let height := toString d.height
  "<svg width=\"" ++ width ++ "\" height=\"" ++ height ++ "\" xmlns=\"" ++ svgNamespace ++ "\">\n" ++
    element "rect" [("width", width), ("height", height), ("fill", "#FFFFFF")] ++
    String.join captions ++ String.join shapes ++ String.join legend ++ "</svg>\n"

end Trendline.Chart
