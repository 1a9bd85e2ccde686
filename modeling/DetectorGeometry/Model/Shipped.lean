namespace DetectorGeometry.Shipped

def mimosa26 : String := String.intercalate "\n" [
  "# Mimosa26 monolithic active pixel sensor, thinned to 50um",
  "type = \"monolithic\"",
  "",
  "number_of_pixels = 1152 576",
  "pixel_size = 18.4um 18.4um",
  "",
  "sensor_thickness = 50um",
  "sensor_excess_top = 0.1mm",
  "sensor_excess_bottom = 2.5mm",
  "sensor_excess_left = 0.1mm",
  "sensor_excess_right = 0.1mm",
  "",
  "# Kapton foils protecting both faces",
  "[support]",
  "thickness = 25um",
  "size = 21.5mm 13.7mm",
  "location = sensor",
  "material = \"kapton\"",
  "",
  "[support]",
  "thickness = 25um",
  "size = 21.5mm 13.7mm",
  "location = chip",
  "material = \"kapton\"",
  ""]

def timepix : String := String.intercalate "\n" [
  "# Timepix hybrid pixel detector with a 300um silicon sensor",
  "type = \"hybrid\"",
  "",
  "number_of_pixels = 256 256",
  "pixel_size = 55um 55um",
  "",
  "sensor_thickness = 300um",
  "sensor_excess = 1mm",
  "",
  "bump_sphere_radius = 9.0um",
  "bump_height = 20.0um",
  "bump_cylinder_radius = 7.0um",
  "",
  "chip_thickness = 700um",
  "chip_excess_left = 15um",
  "chip_excess_right = 15um",
  "chip_excess_bottom = 2040um",
  "",
  "# PCB with a cutout below the active area",
  "[support]",
  "thickness = 1.76mm",
  "size = 47mm 79mm",
  "offset = 0 -22.25mm",
  "hole_size = 12mm 12mm",
  "material = \"g10\"",
  ""]

def files : List (String × String) := [("mimosa26.conf", mimosa26), ("timepix.conf", timepix)]

end DetectorGeometry.Shipped
